import HexrotPxiCom.LogTlm.Ownership

/-!
# The writer's steps keep the balance

A record that `logTlm_write` copies goes from its call into the current buffer, and a buffer
that it marks full goes over to the log.
-/

namespace HexrotPxiCom.LogTlm

set_option autoImplicit false

open State

universe u
variable {ρ : Type u}

namespace Threads.Owned
variable {n recordPerFile : Int} {size p q : Nat} {t u : Threads ρ} {a b : AppPc ρ} {env : Env}

/-- Past the count test the re-arm is not in progress. -/
theorem not_reset (h : Owned n p q t) (ha : t.app = a) (hspace : a.beforeSpace = false) :
    t.run.atReset = false := by
  cases hr : t.run.atReset with
  | false => rfl
  | true =>
    have hbefore := (h.reset_run hr).2
    rw [ha, hspace] at hbefore
    cases hbefore

theorem current_ne_none (h : Owned n p q t) (ha : t.app = a) (htest : a.beforeTest = false) :
    t.log.pBufferCurrent ≠ none := by
  intro hnone
  have hbefore := h.null_app hnone
  rw [ha, htest] at hbefore
  cases hbefore

theorem current_some (h : Owned n p q t) (hcur : t.log.pBufferCurrent ≠ none) :
    ∃ c, t.log.pBufferCurrent = some c ∧ (c = p ∨ c = q) := by
  rcases h.current with hn | hp | hq
  · exact absurd hn hcur
  · exact ⟨p, hp, Or.inl rfl⟩
  · exact ⟨q, hq, Or.inr rfl⟩

theorem not_full2 (h : Owned n p q t) (ha : t.app = a) (hleave : a.leaving2 = false)
    (hcur : t.log.pBufferCurrent = some q) : t.log.isFullBuffer2 = false := by
  cases hf : t.log.isFullBuffer2 with
  | false => rfl
  | true =>
    have htwo := h.two hcur hf
    rw [ha, hleave] at htwo
    cases htwo

/-- A step of the application thread that leaves the globals as they are. -/
theorem move_app (h : Owned n p q t) {acc : List ρ} (ha : t.app = a)
    (hnull : t.log.pBufferCurrent = none → b.beforeTest = true)
    (hspace : t.run.atReset = true → b.beforeSpace = true) (htwo : a.leaving2 = false)
    (hroom : t.log.pBufferCurrent ≠ none → b.beforeSpace = true → t.run.atReset = false →
      t.log.countBufferCurrent < n)
    (hfacts : b.Facts n t.log) (hleave : b.leaving = a.leaving)
    (hacc : (↑acc : Multiset ρ) + b.stored = ↑t.accepted + a.stored) :
    Owned n p q { t with app := b, accepted := acc } where
  count_nonneg := h.count_nonneg
  count_le := h.count_le
  current := h.current
  null_app := hnull
  null_run := h.null_run
  reset_run := fun hr => ⟨(h.reset_run hr).1, hspace hr⟩
  flushing1 := h.flushing1
  flushing2 := h.flushing2
  two := by
    intro hcur hfull
    rw [h.not_full2 ha htwo hcur] at hfull
    cases hfull
  room := hroom
  facts := hfacts
  balance := by
    have hfilled : filled { t with app := b, accepted := acc } = t.filled :=
      filled_congr (by rw [ha]; exact hleave) rfl rfl rfl rfl
    change _ + t.owed1 + t.owed2 + filled _ = (↑acc : Multiset ρ) + b.stored
    rw [hfilled, hacc, ← ha]
    exact h.balance

/-- A step between two calls, or before the count test of a call. -/
theorem move_before (h : Owned n p q t) (ha : t.app = a) (hbefore : a.beforeSpace = true)
    (hnull : t.log.pBufferCurrent = none → b.beforeTest = true) (hspace : b.beforeSpace = true) :
    Owned n p q { t with app := b } := by
  obtain ⟨hleave, htwo, hstored⟩ := AppPc.of_beforeSpace hbefore
  obtain ⟨hleave', -, hstored'⟩ := AppPc.of_beforeSpace hspace
  apply h.move_app ha hnull (fun _ => hspace) htwo _ (facts_of_beforeSpace hspace _)
    (hleave'.trans hleave.symm) (by rw [hstored, hstored'])
  intro hcur _ hr
  exact h.room hcur (by rw [ha]; exact hbefore) hr

/-- A step past the count test. -/
theorem move_past (h : Owned n p q t) (ha : t.app = a)
    (hcur : t.log.pBufferCurrent ≠ none) (hreset : t.run.atReset = false)
    (htwo : a.leaving2 = false) (hspace : b.beforeSpace = false) (hfacts : b.Facts n t.log)
    (hleave : b.leaving = a.leaving) (hstored : b.stored = a.stored) :
    Owned n p q { t with app := b } := by
  apply h.move_app ha _ _ htwo _ hfacts hleave (by rw [hstored])
  · intro hnull
    exact absurd hnull hcur
  · intro hr
    rw [hreset] at hr
    cases hr
  · intro _ hbefore _
    rw [hspace] at hbefore
    cases hbefore

/-- The `memcpy` writes a slot that is counted nowhere. -/
theorem copy {r : ρ} (h : Owned n p q t) (hb : t.log.Buffers n size recordPerFile p q)
    (ha : t.app = .copy r) (hsafe : t.log.pBufferCurrent = t.log.pBuffer1 →
      t.log.isFullBuffer1 = true → t.run.flushed1 = true)
    (hu : u = { t with log := t.log.copyRecord r, app := .addCount r }) : Owned n p q u := by
  have hreset := h.not_reset ha rfl
  have hlt : t.log.countBufferCurrent < n := by
    have hfacts := h.facts
    rw [ha] at hfacts
    exact hfacts
  have hnonneg := h.count_nonneg
  obtain ⟨c, hc, hcpq⟩ := h.current_some (h.current_ne_none ha rfl)
  have hlen := hb.length_eq hcpq
  have howed1 : u.owed1 = t.owed1 := by
    by_cases how : t.log.isFullBuffer1 = true ∧ t.run.flushed1 = false
    · have hne : t.log.pBufferCurrent ≠ some p := by
        intro hp
        have hfl := hsafe (hp.trans hb.buffer1.symm) how.1
        rw [how.2] at hfl
        cases hfl
      simp [hu, owed1, hb.buffer1, copyRecord_heap_of_ne r hne]
    · have hzero : (t.log.isFullBuffer1 && !t.run.flushed1) = false := by
        cases h1 : t.log.isFullBuffer1 <;> cases h2 : t.run.flushed1 <;> simp_all
      simp [hu, owed1, hzero]
  have howed2 : u.owed2 = t.owed2 := by
    cases hfull : t.log.isFullBuffer2 with
    | false => simp [hu, owed2, hfull]
    | true =>
      have hne : t.log.pBufferCurrent ≠ some q := by
        intro hq
        rw [h.not_full2 ha rfl hq] at hfull
        cases hfull
      simp [hu, owed2, hb.buffer2, copyRecord_heap_of_ne r hne]
  have hfilled : u.filled = t.filled := by
    have htake : ((t.log.heap c).cells.set t.log.countBufferCurrent.toNat r).take
        t.log.countBufferCurrent.toNat = (t.log.heap c).cells.take t.log.countBufferCurrent.toNat :=
      List.take_set_of_le (Nat.le_refl _)
    simp [hu, filled, ha, AppPc.leaving, hreset, hc, copyRecord_cells r hc, htake]
  have hbal : u.total = ↑u.accepted + u.app.stored := by
    have hb := h.balance
    rw [total, howed1, howed2, hfilled, hu, copyRecord_file]
    rw [ha] at hb
    exact hb
  subst hu
  refine ⟨?_, ?_, ?_, ?_, ?_, ?_, ?_, ?_, ?_, ?_, ?_, hbal⟩
  · simpa using h.count_nonneg
  · simpa using h.count_le
  · simpa using h.current
  · intro hn
    rw [copyRecord_pBufferCurrent, hc] at hn
    cases hn
  · simpa using h.null_run
  · simp [hreset]
  · simpa using h.flushing1
  · simpa using h.flushing2
  · intro hcur hfull
    rw [copyRecord_pBufferCurrent] at hcur
    rw [copyRecord_isFullBuffer2, h.not_full2 ha rfl hcur] at hfull
    cases hfull
  · intro _ hs
    cases hs
  · refine ⟨by simpa using hlt, ?_⟩
    rw [copyRecord_pBufferCurrent, copyRecord_countBufferCurrent, hc, cellsAt_some,
      copyRecord_cells r hc, List.getElem?_set_self (by omega)]

theorem addCount {r : ρ} (h : Owned n p q t) (ha : t.app = .addCount r)
    (hu : u = { t with
      log := { t.log with countBufferCurrent := t.log.countBufferCurrent + 1 }
      app := .testFull r }) : Owned n p q u := by
  have hreset := h.not_reset ha rfl
  have hcur := h.current_ne_none ha rfl
  have hnonneg := h.count_nonneg
  obtain ⟨hlt, hcell⟩ : t.log.countBufferCurrent < n ∧
      (t.log.cellsAt t.log.pBufferCurrent)[t.log.countBufferCurrent.toNat]? = some r := by
    have hfacts := h.facts
    rw [ha] at hfacts
    exact hfacts
  have hfilled : u.filled = t.filled + {r} := by
    have hsucc : (t.log.countBufferCurrent + 1).toNat = t.log.countBufferCurrent.toNat + 1 := by
      omega
    rw [hu]
    simp only [filled, ha, AppPc.leaving, hreset, Bool.or_self, Bool.false_eq_true, if_false]
    change (↑(List.take (t.log.countBufferCurrent + 1).toNat
      (t.log.cellsAt t.log.pBufferCurrent)) : Multiset ρ) = _
    rw [hsucc, List.take_add_one, hcell, ← Multiset.coe_add, Option.toList_some,
      Multiset.coe_singleton]
  have hbal : u.total = ↑u.accepted + u.app.stored := by
    have hb := h.balance
    rw [ha] at hb
    have hsum : u.total = t.total + {r} := by
      rw [total, total, hfilled, hu]
      exact (add_assoc _ _ _).symm
    rw [hsum, hb, hu]
    exact add_assoc _ _ _
  subst hu
  refine ⟨?_, ?_, h.current, fun hn => absurd hn hcur, h.null_run, ?_, h.flushing1, h.flushing2,
    ?_, ?_, trivial, hbal⟩
  · change 0 ≤ t.log.countBufferCurrent + 1
    omega
  · change t.log.countBufferCurrent + 1 ≤ n
    omega
  · simp [hreset]
  · intro hq hfull
    have hfull' : t.log.isFullBuffer2 = true := hfull
    rw [h.not_full2 ha rfl hq] at hfull'
    cases hfull'
  · intro _ hs
    cases hs

theorem flushed1_eq_false (h : Owned n p q t) (hfull : t.log.isFullBuffer1 = false) :
    t.run.flushed1 = false := by
  cases hf : t.run.flushed1 with
  | false => rfl
  | true =>
    rw [h.flushing1 (RunPc.flushing1_of_flushed1 hf)] at hfull
    cases hfull

theorem flushed2_eq_false (h : Owned n p q t) (hfull : t.log.isFullBuffer2 = false) :
    t.run.flushed2 = false := by
  cases hf : t.run.flushed2 with
  | false => rfl
  | true =>
    rw [h.flushing2 (RunPc.flushing2_of_flushed2 hf)] at hfull
    cases hfull

theorem filled_full {c : Nat} (h : Owned n p q t) (ha : t.app = a)
    (hspace : a.beforeSpace = false) (hleave : a.leaving = false)
    (hcount : t.log.countBufferCurrent = n) (hc : t.log.pBufferCurrent = some c)
    (hlen : ((t.log.heap c).cells.length : Int) = n) : t.filled = ↑(t.log.heap c).cells := by
  have hreset := h.not_reset ha hspace
  have htake : (t.log.heap c).cells.take t.log.countBufferCurrent.toNat = (t.log.heap c).cells := by
    apply List.take_of_length_le
    omega
  simp [filled, ha, hleave, hreset, hc, htake]

/-- Marking buffer 1 full hands its records over to the log. -/
theorem lock1 {r : ρ} {a : AppPc ρ} (h : Owned n p q t)
    (hb : t.log.Buffers n size recordPerFile p q) (ha : t.app = .lock1 r)
    (hfull1 : t.log.isFullBuffer1 = false)
    (hpc : a = .setNull r ∨ (t.log.isFullBuffer2 = false ∧ a = .swapTo2 r))
    (hu : u = { t with log := { t.log with isFullBuffer1 := true }, app := a }) :
    Owned n p q u := by
  have hreset := h.not_reset ha rfl
  have hcur := h.current_ne_none ha rfl
  obtain ⟨hcount, hc⟩ : t.log.countBufferCurrent = n ∧ t.log.pBufferCurrent = t.log.pBuffer1 := by
    have hfacts := h.facts
    rw [ha] at hfacts
    exact hfacts
  rw [hb.buffer1] at hc
  have hleave : a.leaving = true := by rcases hpc with rfl | ⟨_, rfl⟩ <;> rfl
  have hspace : a.beforeSpace = false := by rcases hpc with rfl | ⟨_, rfl⟩ <;> rfl
  have hstored : a.stored = {r} := by rcases hpc with rfl | ⟨_, rfl⟩ <;> rfl
  have howed1 : t.owed1 = 0 := by simp [owed1, hfull1]
  have howed1' : u.owed1 = ↑(t.log.heap p).cells := by
    simp [hu, owed1, h.flushed1_eq_false hfull1, hb.buffer1, cellsAt]
  have howed2 : u.owed2 = t.owed2 :=
    owed2_congr (by rw [hu]) (by rw [hu]) (by rw [hu]) (by rw [hu])
  have hfilled : t.filled = ↑(t.log.heap p).cells :=
    h.filled_full ha rfl rfl hcount hc hb.length1
  have hfilled' : u.filled = 0 := by simp [hu, filled, hleave]
  have hbal := h.balance_of_eq (u := u) (by
      rw [total, total, howed1, howed1', howed2, hfilled, hfilled', hu]
      abel) (by rw [hu, ha]; exact congrArg _ hstored)
  subst hu
  refine ⟨h.count_nonneg, h.count_le, h.current, fun hn => absurd hn hcur, h.null_run, ?_,
    fun _ => rfl, h.flushing2, ?_, ?_, ?_, hbal⟩
  · simp [hreset]
  · intro hq
    have hpq : some p = some q := hc.symm.trans hq
    exact absurd (Option.some.inj hpq) hb.distinct
  · simp [hspace]
  · rcases hpc with rfl | ⟨hfull2, rfl⟩
    · trivial
    · exact hfull2

theorem lock2 {r : ρ} {a : AppPc ρ} (h : Owned n p q t)
    (hb : t.log.Buffers n size recordPerFile p q) (ha : t.app = .lock2 r)
    (hpc : a = .setNull r ∨ a = .swapTo1 r)
    (hu : u = { t with log := { t.log with isFullBuffer2 := true }, app := a }) :
    Owned n p q u := by
  have hreset := h.not_reset ha rfl
  have hcur := h.current_ne_none ha rfl
  obtain ⟨hcount, hc⟩ : t.log.countBufferCurrent = n ∧ t.log.pBufferCurrent = t.log.pBuffer2 := by
    have hfacts := h.facts
    rw [ha] at hfacts
    exact hfacts
  rw [hb.buffer2] at hc
  have hfull2 := h.not_full2 ha rfl hc
  have hleave : a.leaving = true := by rcases hpc with rfl | rfl <;> rfl
  have hspace : a.beforeSpace = false := by rcases hpc with rfl | rfl <;> rfl
  have hstored : a.stored = {r} := by rcases hpc with rfl | rfl <;> rfl
  have howed2 : t.owed2 = 0 := by simp [owed2, hfull2]
  have howed2' : u.owed2 = ↑(t.log.heap q).cells := by
    simp [hu, owed2, h.flushed2_eq_false hfull2, hb.buffer2, cellsAt]
  have howed1 : u.owed1 = t.owed1 :=
    owed1_congr (by rw [hu]) (by rw [hu]) (by rw [hu]) (by rw [hu])
  have hfilled : t.filled = ↑(t.log.heap q).cells :=
    h.filled_full ha rfl rfl hcount hc hb.length2
  have hfilled' : u.filled = 0 := by simp [hu, filled, hleave]
  have hbal := h.balance_of_eq (u := u) (by
      rw [total, total, howed1, howed2, howed2', hfilled, hfilled', hu]
      abel) (by rw [hu, ha]; exact congrArg _ hstored)
  subst hu
  refine ⟨h.count_nonneg, h.count_le, h.current, fun hn => absurd hn hcur, h.null_run, ?_,
    h.flushing1, fun _ => rfl, ?_, ?_, ?_, hbal⟩
  · simp [hreset]
  · intro _ _
    rcases hpc with rfl | rfl <;> rfl
  · simp [hspace]
  · rcases hpc with rfl | rfl <;> trivial

/-- The assignment of the other buffer, which is not owed to the log. -/
theorem swap {r : ρ} {c : Option Nat} (h : Owned n p q t)
    (hb : t.log.Buffers n size recordPerFile p q)
    (ha : (t.app = .swapTo1 r ∧ c = some p) ∨ (t.app = .swapTo2 r ∧ c = some q))
    (hu : u = { t with log := { t.log with pBufferCurrent := c }, app := .resetCount r }) :
    Owned n p q u := by
  have hspace : t.app.beforeSpace = false := by rcases ha with ⟨ha, _⟩ | ⟨ha, _⟩ <;> rw [ha] <;> rfl
  have hleave : t.app.leaving = true := by rcases ha with ⟨ha, _⟩ | ⟨ha, _⟩ <;> rw [ha] <;> rfl
  have hstored : t.app.stored = {r} := by rcases ha with ⟨ha, _⟩ | ⟨ha, _⟩ <;> rw [ha] <;> rfl
  have hbefore : t.app.beforeTest = false := by
    rcases ha with ⟨ha, _⟩ | ⟨ha, _⟩ <;> rw [ha] <;> rfl
  have hreset := h.not_reset rfl hspace
  have howed1 : u.owed1 = t.owed1 :=
    owed1_congr (by rw [hu]) (by rw [hu]) (by rw [hu]) (by rw [hu])
  have howed2 : u.owed2 = t.owed2 :=
    owed2_congr (by rw [hu]) (by rw [hu]) (by rw [hu]) (by rw [hu])
  have hfilled : t.filled = 0 := by simp [filled, hleave]
  have hfilled' : u.filled = 0 := by simp [hu, filled, AppPc.leaving]
  have hbal := h.balance_of_eq (u := u)
    (by rw [total, total, howed1, howed2, hfilled, hfilled', hu])
    (by rw [hu, hstored]; rfl)
  subst hu
  refine ⟨h.count_nonneg, h.count_le, ?_, ?_, ?_, ?_, h.flushing1, h.flushing2, ?_, ?_, trivial,
    hbal⟩
  · rcases ha with ⟨_, rfl⟩ | ⟨_, rfl⟩
    · exact Or.inr (Or.inl rfl)
    · exact Or.inr (Or.inr rfl)
  · rcases ha with ⟨_, rfl⟩ | ⟨_, rfl⟩ <;> simp
  · intro hrun
    exact absurd (h.null_run hrun) (h.current_ne_none rfl hbefore)
  · simp [hreset]
  · intro hcur hfull
    rcases ha with ⟨_, rfl⟩ | ⟨ha, rfl⟩
    · exact absurd (Option.some.inj hcur) hb.distinct
    · have hfacts := h.facts
      rw [ha] at hfacts
      have hfull' : t.log.isFullBuffer2 = true := hfull
      have hempty : t.log.isFullBuffer2 = false := hfacts
      rw [hempty] at hfull'
      cases hfull'
  · intro _ hs
    cases hs

theorem ret_accepted {code : Int} (hcode : code ≠ -2) (r : ρ) (t : Threads ρ) :
    (↑(ret code r t).accepted : Multiset ρ) = ↑t.accepted + {r} := by
  simp only [ret, hcode, if_false]
  exact (Multiset.coe_add t.accepted [r]).symm

theorem resetCount_app {r : ρ} (h : Owned n p q t)
    (hb : t.log.Buffers n size recordPerFile p q) (ha : t.app = .resetCount r)
    (hu : u = ret 0 r { t with log := { t.log with countBufferCurrent := 0 } }) :
    Owned n p q u := by
  have hpos := hb.count_pos
  have hcur := h.current_ne_none ha rfl
  have howed1 : u.owed1 = t.owed1 :=
    owed1_congr (by rw [hu]; rfl) (by rw [hu]; rfl) (by rw [hu]; rfl) (by rw [hu]; rfl)
  have howed2 : u.owed2 = t.owed2 :=
    owed2_congr (by rw [hu]; rfl) (by rw [hu]; rfl) (by rw [hu]; rfl) (by rw [hu]; rfl)
  have hfilled : t.filled = 0 := by simp [filled, ha, AppPc.leaving]
  have hfilled' : u.filled = 0 := by simp [hu, filled, ret]
  have hbal := h.balance_of_eq (u := u)
    (by rw [total, total, howed1, howed2, hfilled, hfilled', hu]; rfl)
    (by rw [hu, ret_accepted (by decide), ha]; exact add_zero _)
  subst hu
  refine ⟨Int.le_refl 0, Int.le_of_lt hpos, h.current, fun hn => absurd hn hcur, h.null_run,
    fun hr => ⟨(h.reset_run hr).1, rfl⟩, h.flushing1, h.flushing2, ?_, fun _ _ _ => hpos, trivial,
    hbal⟩
  intro hq hfull
  have hfull' : t.log.isFullBuffer2 = true := hfull
  rw [h.not_full2 ha rfl hq] at hfull'
  cases hfull'

theorem setNull {r : ρ} (h : Owned n p q t) (ha : t.app = .setNull r)
    (hu : u = ret (-1) r { t with log := { t.log with pBufferCurrent := none } }) :
    Owned n p q u := by
  have hreset := h.not_reset ha rfl
  have howed1 : u.owed1 = t.owed1 :=
    owed1_congr (by rw [hu]; rfl) (by rw [hu]; rfl) (by rw [hu]; rfl) (by rw [hu]; rfl)
  have howed2 : u.owed2 = t.owed2 :=
    owed2_congr (by rw [hu]; rfl) (by rw [hu]; rfl) (by rw [hu]; rfl) (by rw [hu]; rfl)
  have hfilled : t.filled = 0 := by simp [filled, ha, AppPc.leaving]
  have hfilled' : u.filled = 0 := by simp [hu, filled, ret, cellsAt]
  have hbal := h.balance_of_eq (u := u)
    (by rw [total, total, howed1, howed2, hfilled, hfilled', hu]; rfl)
    (by rw [hu, ret_accepted (by decide), ha]; exact add_zero _)
  subst hu
  refine ⟨h.count_nonneg, h.count_le, Or.inl rfl, fun _ => rfl, fun _ => rfl, ?_, h.flushing1,
    h.flushing2, ?_, fun hn => absurd rfl hn, trivial, hbal⟩
  · intro hr
    have hr' : t.run.atReset = true := hr
    rw [hreset] at hr'
    cases hr'
  · intro hq
    cases hq

theorem appStep (h : Owned n p q t) (hb : t.log.Buffers n size recordPerFile p q)
    (hready : t.log.isThreadReady = true) (hsafe : OneOwner t (.app env))
    (hstep : t.appStep env = some u) :
    Owned n p q u ∧ u.log.Buffers n size recordPerFile p q ∧ u.log.isThreadReady = true := by
  have hmax := hb.countBufferMax
  have hle := h.count_le
  have hfacts := h.facts
  cases appStep_step hstep with
  | noBuffer r ha => exact ⟨h.move_before ha rfl (fun _ => rfl) rfl, hb, hready⟩
  | toTestFile r ha hsome =>
    exact ⟨h.move_before ha rfl (fun hn => absurd hn hsome) rfl, hb, hready⟩
  | noFile r ha => exact ⟨h.move_before ha rfl (fun _ => rfl) rfl, hb, hready⟩
  | toTestSpace r ha =>
    have hcur := h.current_ne_none ha rfl
    exact ⟨h.move_before ha rfl (fun hn => absurd hn hcur) rfl, hb, hready⟩
  | toCopy r ha hlt =>
    have hcur := h.current_ne_none ha rfl
    have hreset : t.run.atReset = false := by simpa [OneOwner, ha] using hsafe
    rw [hmax] at hlt
    exact ⟨h.move_past ha hcur hreset rfl rfl hlt rfl rfl, hb, hready⟩
  | noSpace r ha hge =>
    have hcur := h.current_ne_none ha rfl
    have hreset : t.run.atReset = false := by simpa [OneOwner, ha] using hsafe
    have hlt := h.room hcur (by rw [ha]; rfl) hreset
    rw [hmax] at hge
    exact absurd hlt hge
  | copy r ha =>
    have hown : t.log.pBufferCurrent = t.log.pBuffer1 → t.log.isFullBuffer1 = true →
        t.run.flushed1 = true := by simpa [OneOwner, ha] using hsafe
    exact ⟨h.copy hb ha hown rfl, hb.copyRecord r, by simpa using hready⟩
  | addCount r ha => exact ⟨h.addCount ha rfl, hb.of_eq rfl, hready⟩
  | notFull r ha hlt =>
    have hcur := h.current_ne_none ha rfl
    have hreset := h.not_reset ha rfl
    rw [hmax] at hlt
    refine ⟨h.move_app ha (fun hn => absurd hn hcur) (by simp [hreset]) rfl
      (fun _ _ _ => hlt) trivial rfl ?_, hb, hready⟩
    exact (add_zero _).trans (ret_accepted (by decide : (0 : Int) ≠ -2) r t)
  | toTestThread r ha hge =>
    have hcur := h.current_ne_none ha rfl
    have hreset := h.not_reset ha rfl
    rw [hmax] at hge
    have heq : t.log.countBufferCurrent = n := by omega
    exact ⟨h.move_past ha hcur hreset rfl rfl heq rfl rfl, hb, hready⟩
  | toTestWhich r ha =>
    have hcur := h.current_ne_none ha rfl
    have hreset := h.not_reset ha rfl
    rw [ha] at hfacts
    exact ⟨h.move_past ha hcur hreset rfl rfl hfacts rfl rfl, hb, hready⟩
  | toFlush r _ hstopped =>
    rw [hready] at hstopped
    cases hstopped
  | flush r ha =>
    rw [ha] at hfacts
    exact hfacts.elim
  | toLock1 r ha hone =>
    have hcur := h.current_ne_none ha rfl
    have hreset := h.not_reset ha rfl
    rw [ha] at hfacts
    exact ⟨h.move_past ha hcur hreset rfl rfl ⟨hfacts, hone⟩ rfl rfl, hb, hready⟩
  | toLock2 r ha hother =>
    have hcur := h.current_ne_none ha rfl
    have hreset := h.not_reset ha rfl
    have htwo : t.log.pBufferCurrent = t.log.pBuffer2 := by
      rcases h.current with hn | hp | hq
      · exact absurd hn hcur
      · exact absurd (hp.trans hb.buffer1.symm) hother
      · exact hq.trans hb.buffer2.symm
    rw [ha] at hfacts
    exact ⟨h.move_past ha hcur hreset rfl rfl ⟨hfacts, htwo⟩ rfl rfl, hb, hready⟩
  | lock1ToSetNull r ha =>
    have hfull1 : t.log.isFullBuffer1 = false := by simpa [OneOwner, ha] using hsafe
    exact ⟨h.lock1 hb ha hfull1 (Or.inl rfl) rfl, hb.of_eq rfl, hready⟩
  | lock1 r ha hfull2 =>
    have hfull1 : t.log.isFullBuffer1 = false := by simpa [OneOwner, ha] using hsafe
    exact ⟨h.lock1 hb ha hfull1 (Or.inr ⟨hfull2, rfl⟩) rfl, hb.of_eq rfl, hready⟩
  | lock2ToSetNull r ha => exact ⟨h.lock2 hb ha (Or.inl rfl) rfl, hb.of_eq rfl, hready⟩
  | lock2 r ha => exact ⟨h.lock2 hb ha (Or.inr rfl) rfl, hb.of_eq rfl, hready⟩
  | swapTo2 r ha => exact ⟨h.swap hb (Or.inr ⟨ha, hb.buffer2⟩) rfl, hb.of_eq rfl, hready⟩
  | swapTo1 r ha => exact ⟨h.swap hb (Or.inl ⟨ha, hb.buffer1⟩) rfl, hb.of_eq rfl, hready⟩
  | resetCount r ha => exact ⟨h.resetCount_app hb ha rfl, hb.of_eq rfl, hready⟩
  | setNull r ha => exact ⟨h.setNull ha rfl, hb.of_eq rfl, hready⟩
  | toCloseClear ha | noThread ha | joined ha =>
    exact ⟨h.move_before ha rfl (fun _ => rfl) rfl, hb, hready⟩
  | closeClear ha => simp [OneOwner, ha] at hsafe

theorem step {a : Action ρ} (h : Owned n p q t) (hb : t.log.Buffers n size recordPerFile p q)
    (hready : t.log.isThreadReady = true) (hio : a.Success) (hnumber : t.Numbered a)
    (hsafe : OneOwner t a) (hstep : Threads.step t a = some u) :
    Owned n p q u ∧ u.log.Buffers n size recordPerFile p q ∧ u.log.isThreadReady = true := by
  cases a with
  | write r =>
    cases ha : t.app <;> simp only [Threads.step, ha] at hstep <;>
      cases hstep
    exact ⟨h.move_before ha rfl (fun _ => rfl) rfl, hb, hready⟩
  | closeThread =>
    cases ha : t.app <;> simp only [Threads.step, ha] at hstep <;>
      cases hstep
    exact ⟨h.move_before ha rfl (fun _ => rfl) rfl, hb, hready⟩
  | app env => exact h.appStep hb hready hsafe hstep
  | run env =>
    obtain ⟨hu, hbu⟩ := h.runStep hb hio hnumber hstep
    exact ⟨hu, hbu, (runStep_isThreadReady hstep).trans hready⟩

end Threads.Owned

end HexrotPxiCom.LogTlm
