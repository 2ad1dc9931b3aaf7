import HexrotPxiCom.Independence

/-!
# The calls on a buffer finish

The thread inside finishes by its own steps and frees the lock, so whoever waits for it goes on.
With the shared statics kept right, every call on a live handle excludes the others, finishes,
and returns what it returns for the buffer alone.
-/

namespace HexrotPxiCom.CircularBuffer

set_option autoImplicit false

open BoundedFifo

variable {k : Nat}

namespace Process

variable {s t : Process k} {i : Fin k} {c : Nat}

/-- The steps that a thread inside still has to take. -/
def left : Pc → Nat
  | .body .. => 3
  | .advance .. | .retreat .. => 2
  | .release => 1
  | _ => 0

theorem goto_inside {u : Process k} {p q : Pc} (hpc : u.pc = s.pc) (hq : q.inside = true)
    (hleft : left q < left p) : (∀ j, j ≠ i → (u.goto i q).pc j = s.pc j) ∧
      (((u.goto i q).pc i = .idle ∧ (u.goto i q).lock = .unlocked) ∨
        ((u.goto i q).pc i).inside = true ∧ left ((u.goto i q).pc i) < left p) := by
  refine ⟨fun j hj => ?_, Or.inr ?_⟩
  · rw [goto_pc_ne hj, hpc]
  · rw [goto_pc_self]
    exact ⟨hq, hleft⟩

/-- A thread inside can go on, towards the end of its call. -/
theorem Sound.inside_step (slots : Nat → CommandStream) (destroyOk : Bool) (h : s.Sound)
    (hin : (s.pc i).inside = true) : ∃ u, s.step (.step i slots destroyOk) = some u ∧
      (∀ j, j ≠ i → u.pc j = s.pc j) ∧
      (u.pc i = .idle ∧ u.lock = .unlocked ∨
        (u.pc i).inside = true ∧ left (u.pc i) < left (s.pc i)) := by
  have hthread : s.step (.step i slots destroyOk) = s.threadStep i slots destroyOk := by
    unfold Process.step
    rw [h.apart.running]
    rfl
  rw [hthread]
  unfold Process.threadStep
  cases hpc : s.pc i with
  | idle | initStore | initRead | initMutex | hold | freeBlocks | destroy =>
    rw [hpc] at hin
    cases hin
  | body c op =>
    obtain ⟨cur, b, size, q, hcur, hsize, hq, hmid⟩ :=
      h.used (i := i) (c := c) (by rw [hpc]; simp [Pc.uses])
    have hrest : cur = b := hmid.at_rest h.apart hin (by simp [hpc])
    subst hrest
    obtain ⟨b', hcall, -⟩ := hq.call_eq hsize i.val op
    dsimp only
    unfold Process.body
    rw [hcur, Option.bind_some]
    cases op with
    | put data =>
      obtain ⟨r, hput, -⟩ := Option.map_eq_some_iff.mp hcall
      unfold circularBufPut at hput
      dsimp only at hput ⊢
      split at hput
      · rename_i hroom
        rw [if_pos hroom]
        exact ⟨_, rfl, goto_inside (write_frame s c _).1 rfl (by simp [left])⟩
      · cases hput
    | get data =>
      obtain ⟨r, hget, -⟩ := Option.map_eq_some_iff.mp hcall
      unfold circularBufGet at hget
      dsimp only at hget ⊢
      split at hget
      · rename_i hempty
        rw [if_pos hempty]
        exact ⟨_, rfl, goto_inside (s := s) (u := s) rfl rfl (by simp [left])⟩
      · rename_i hne
        obtain ⟨found, hfound, -⟩ := Option.map_eq_some_iff.mp hget
        rw [if_neg hne, hfound]
        exact ⟨_, rfl, goto_inside rfl rfl (by simp [left])⟩
    | size => exact ⟨_, rfl, goto_inside (s := s) (u := s) rfl rfl (by simp [left])⟩
  | advance c data lostData =>
    obtain ⟨cur, -, -, -, hcur, -⟩ := h.used (i := i) (c := c) (by rw [hpc]; simp [Pc.uses])
    dsimp only
    rw [hcur]
    exact ⟨_, rfl, goto_inside (write_frame s c _).1 rfl (by simp [left])⟩
  | retreat c data found =>
    obtain ⟨cur, -, -, -, hcur, -⟩ := h.used (i := i) (c := c) (by rw [hpc]; simp [Pc.uses])
    dsimp only
    rw [hcur]
    exact ⟨_, rfl, goto_inside (write_frame s c _).1 rfl (by simp [left])⟩
  | release =>
    have hlock := (h.apart.lock i).mp hin
    dsimp only
    rw [hlock]
    exact ⟨_, rfl, fun j hj => goto_pc_ne hj _ _, Or.inl ⟨goto_pc_self i _ _, rfl⟩⟩

theorem unshared_inside {slots : Nat → CommandStream} {destroyOk : Bool}
    (hin : (s.pc i).inside = true) : s.Unshared (.step i slots destroyOk) := by
  unfold Unshared
  dsimp only
  split
  all_goals
    rename_i hpc
    first | trivial | (rw [hpc] at hin; cases hin)

/-- The thread inside finishes its call by its own steps, and the lock is free then. -/
theorem Sound.finishes_inside (h : s.Sound) (hin : (s.pc i).inside = true) :
    ∃ as u, Runs.run Process.step s as = some u ∧ u.Sound ∧ u.pc i = .idle ∧ u.lock = .unlocked ∧
      ∀ j, j ≠ i → u.pc j = s.pc j := by
  have hleads : Runs.Leads (fun u => u.step (.step i (fun _ => default) true))
      (fun u => u.Sound ∧ u.pc i = .idle ∧ u.lock = .unlocked ∧ ∀ j, j ≠ i → u.pc j = s.pc j) s := by
    refine Runs.Leads.of_measure (I := fun u => u.Sound ∧ (u.pc i).inside = true ∧
      ∀ j, j ≠ i → u.pc j = s.pc j) (fun u => left (u.pc i)) ?_ ⟨h, hin, fun _ _ => rfl⟩
    rintro u ⟨hu, hin, hframe⟩ -
    obtain ⟨v, hv, hother, hend⟩ := hu.inside_step (fun _ => default) true hin
    have hsound := hu.step (unshared_inside hin) hv
    have hframe' (j : Fin k) (hj : j ≠ i) : v.pc j = s.pc j := (hother j hj).trans (hframe j hj)
    rcases hend with ⟨hidle, hlock⟩ | ⟨hin', hleft⟩
    · exact ⟨v, hv, Or.inl ⟨hsound, hidle, hlock, hframe'⟩⟩
    · exact ⟨v, hv, Or.inr ⟨⟨hsound, hin', hframe'⟩, hleft⟩⟩
  obtain ⟨n, u, hrun, hu⟩ := hleads.run Process.step _
  exact ⟨_, u, hrun, hu⟩

/-- Some schedule finishes the call of a thread, and the process is still there. -/
def CanFinish (s : Process k) (i : Fin k) : Prop :=
  ∃ as u, Runs.run step s as = some u ∧ u.pc i = .idle ∧ u.exited = false

theorem CanFinish.after {as : List (Action k)} (hr : Runs.run step s as = some t)
    (h : t.CanFinish i) : s.CanFinish i := by
  obtain ⟨bs, u, hu, hidle⟩ := h
  exact ⟨as ++ bs, u, Runs.run_append_eq_some.mpr ⟨t, hr, hu⟩, hidle⟩

theorem threadStep_step {slots : Nat → CommandStream} {destroyOk : Bool}
    (hrun : s.exited = false) (h : s.threadStep i slots destroyOk = some t) :
    Runs.run step s [.step i slots destroyOk] = some t := by
  have hstep : s.step (.step i slots destroyOk) = some t := by
    unfold step
    rw [hrun]
    exact h
  exact Runs.run_cons_eq_some.mpr ⟨t, hstep, rfl⟩

/-- A thread waits for the lock until the thread inside has finished. -/
theorem Sound.when_free {P : Pc} (h : s.Sound) (hpc : s.pc i = P) (hout : P.inside = false)
    (hfree : ∀ u : Process k, u.Sound → u.pc i = P → (∀ j, u.lock ≠ .locked j) →
      (s.lock ≠ .destroyed → u.lock ≠ .destroyed) → u.CanFinish i) : s.CanFinish i := by
  cases hlock : s.lock with
  | locked j =>
    have hin := (h.apart.lock j).mpr hlock
    have hne : i ≠ j := by
      rintro rfl
      rw [hpc, hout] at hin
      cases hin
    obtain ⟨as, u, hr, hu, -, hunlocked, hframe⟩ := h.finishes_inside hin
    refine CanFinish.after hr (hfree u hu ((hframe i hne).trans hpc) ?_ ?_)
    · rw [hunlocked]
      exact fun j' heq => by cases heq
    · rw [hunlocked]
      exact fun _ heq => by cases heq
  | unlocked | destroyed =>
    refine hfree s h hpc ?_ id
    rw [hlock]
    exact fun j' heq => by cases heq

theorem CanFinish.step {slots : Nat → CommandStream} {destroyOk : Bool} (hrun : s.exited = false)
    (hstep : s.threadStep i slots destroyOk = some t) (h : t.CanFinish i) : s.CanFinish i :=
  h.after (threadStep_step hrun hstep)

theorem CanFinish.of_idle (hidle : s.pc i = .idle) (hrun : s.exited = false) : s.CanFinish i :=
  ⟨[], s, rfl, hidle, hrun⟩

theorem Sound.canFinish_inside (h : s.Sound) (hin : (s.pc i).inside = true) : s.CanFinish i := by
  obtain ⟨as, u, hr, hu, hidle, -⟩ := h.finishes_inside hin
  exact ⟨as, u, hr, hidle, hu.apart.running⟩

theorem canFinish_initMutex (hrun : s.exited = false) (hpc : s.pc i = .initMutex c) :
    s.CanFinish i := by
  have hstep : s.threadStep i (fun _ => default) true = some { s.goto i .idle with
      lock := .unlocked
      stage := Function.update s.stage c .live } := by
    rw [Process.threadStep, hpc]
  exact .step hrun hstep (.of_idle (goto_pc_self i _ _) hrun)

theorem canFinish_initRead {size : Nat} {slots : Nat → CommandStream} (hrun : s.exited = false)
    (hpc : s.pc i = .initRead size slots) : s.CanFinish i := by
  have hstep : s.threadStep i (fun _ => default) true = some (s.initRead i size slots) := by
    rw [Process.threadStep, hpc]
  refine .step hrun hstep ?_
  unfold Process.initRead
  split
  · exact .of_idle (goto_pc_self i _ _) hrun
  · exact canFinish_initMutex hrun (goto_pc_self i _ _)

theorem canFinish_initStore {size : Nat} (hrun : s.exited = false)
    (hpc : s.pc i = .initStore size) : s.CanFinish i := by
  have hstep : s.threadStep i (fun _ => default) true =
      some (s.initStore i size fun _ => default) := by
    rw [Process.threadStep, hpc]
  refine .step hrun hstep ?_
  unfold Process.initStore
  split
  · exact .of_idle (goto_pc_self i _ _) hrun
  · exact canFinish_initRead hrun (goto_pc_self i _ _)

/-- A call waits for the thread inside, then takes the lock. -/
theorem Sound.canFinish_hold {op : Op CommandStream} (h : s.Sound) (hpc : s.pc i = .hold c op)
    (hlock : s.lock ≠ .destroyed) : s.CanFinish i := by
  refine h.when_free hpc rfl fun u hu hpc hfree hdestroyed => ?_
  have hunlocked : u.lock = .unlocked := by
    cases hl : u.lock with
    | unlocked => rfl
    | locked j => exact absurd hl (hfree j)
    | destroyed => exact absurd hl (hdestroyed hlock)
  have hstep : u.threadStep i (fun _ => default) true =
      some { u.goto i (.body c op) with lock := .locked i } := by
    rw [Process.threadStep, hpc]
    dsimp only
    rw [hunlocked]
  have hok : u.Unshared (.step i (fun _ => default) true) := by
    unfold Unshared
    dsimp only
    rw [hpc]
    exact hdestroyed hlock
  have hin : ((u.goto i (.body c op)).pc i).inside = true := by rw [goto_pc_self]; rfl
  exact .step hu.apart.running hstep ((hu.threadStep hok hstep).canFinish_inside hin)

/-- The end of a free waits for the thread inside. -/
theorem Sound.canFinish_destroy (h : s.Sound) (hpc : s.pc i = .destroy) : s.CanFinish i := by
  refine h.when_free hpc rfl fun u hu hpc hfree _ => ?_
  cases hl : u.lock with
  | unlocked =>
    have hstep : u.threadStep i (fun _ => default) true =
        some { u.goto i .idle with lock := .destroyed } := by
      rw [Process.threadStep, hpc]
      dsimp only
      rw [hl]
    exact .step hu.apart.running hstep (.of_idle (goto_pc_self i _ _) hu.apart.running)
  | locked j => exact absurd hl (hfree j)
  | destroyed =>
    have hstep : u.threadStep i (fun _ => default) true = some (u.goto i .idle) := by
      rw [Process.threadStep, hpc]
      dsimp only
      rw [hl]
      rfl
    exact .step hu.apart.running hstep (.of_idle (goto_pc_self i _ _) hu.apart.running)

theorem Sound.canFinish_freeBlocks (h : s.Sound) (hpc : s.pc i = .freeBlocks c) :
    s.CanFinish i := by
  obtain ⟨d, hd⟩ := Option.ne_none_iff_exists'.mp
    (h.apart.cbufs_ne_none (h.apart.freeing i c hpc) (by simp) (by simp))
  have hstep : s.threadStep i (fun _ => default) true = some { s.goto i .destroy with
      slots := Function.update s.slots d.buffer none
      cbufs := Function.update s.cbufs c none
      stage := Function.update s.stage c .gone } := by
    rw [Process.threadStep, hpc]
    dsimp only
    rw [hd]
    rfl
  exact .step h.apart.running hstep ((h.freeBlocks hpc hd).canFinish_destroy (goto_pc_self i _ _))

/-- No call waits for ever or ends the process, unless it finds the lock destroyed. -/
theorem Sound.canFinish (h : s.Sound) (hlock : ∀ c op, s.pc i = .hold c op → s.lock ≠ .destroyed) :
    s.CanFinish i := by
  have hrun := h.apart.running
  cases hpc : s.pc i with
  | idle => exact .of_idle hpc hrun
  | initStore => exact canFinish_initStore hrun hpc
  | initRead => exact canFinish_initRead hrun hpc
  | initMutex => exact canFinish_initMutex hrun hpc
  | hold c op => exact h.canFinish_hold hpc (hlock c op hpc)
  | body | advance | retreat | release => exact h.canFinish_inside (by rw [hpc]; rfl)
  | freeBlocks => exact h.canFinish_freeBlocks hpc
  | destroy => exact h.canFinish_destroy hpc

end Process

/-- In a run that keeps the shared statics right, the calls on a handle exclude each other,
finish without ending the process, and return what they return for the buffer alone. -/
theorem buffers_independent {as : List (Action k)} {t : Process k}
    (hr : Runs.run Process.step (.start k) as = some t)
    (hg : Runs.Guarded Process.step Process.Unshared (.start k) as) :
    t.exited = false ∧
      (∀ i j, (t.pc i).inside = true → (t.pc j).inside = true → i = j) ∧
      (∀ c size slots, t.made c = some (size, slots) →
        ∃ b, Process.Alone size slots (t.history c) b) ∧
      ∀ i, (∀ c op, t.pc i = .hold c op → t.lock ≠ .destroyed) → t.CanFinish i := by
  have h : t.Sound := hg.invariant (fun _ _ _ hs hok hstep => hs.step hok hstep) hr (.start k)
  refine ⟨h.apart.running, fun i j hi hj => ?_, fun c size slots hc => ?_, fun i => h.canFinish⟩
  · have heq := ((h.apart.lock i).mp hi).symm.trans ((h.apart.lock j).mp hj)
    cases heq
    rfl
  · obtain ⟨b, halone, -⟩ := h.tracked.alone c size slots hc
    exact ⟨b, halone⟩

/-- A thread takes one step. -/
def stepOf (i : Fin k) : Action k := .step i (fun _ => default) true

/-- Two buffers are made one after the other, and each takes a command. -/
def twoBuffers : List (Action 2) :=
  [.init 0 1, stepOf 0, stepOf 0, stepOf 0, .init 1 1, stepOf 1, stepOf 1, stepOf 1,
    .call 0 1 (.put default), .call 1 3 (.put default), stepOf 0, stepOf 0, stepOf 0, stepOf 0,
    stepOf 1, stepOf 1, stepOf 1, stepOf 1]

theorem buffers_independent_two : ∃ t, Runs.run Process.step (.start 2) twoBuffers = some t ∧
    (t.history 1).length = 1 ∧ (t.history 3).length = 1 ∧ t.exited = false ∧
    ∀ i, (∀ c op, t.pc i = .hold c op → t.lock ≠ .destroyed) → t.CanFinish i := by
  refine ⟨_, rfl, rfl, rfl, ?_⟩
  obtain ⟨hrun, -, -, hfinish⟩ := @buffers_independent 2 twoBuffers _ rfl (by decide +kernel)
  exact ⟨hrun, hfinish⟩

/-- The first of two buffers is freed, then a command is put on the second one. -/
def freeThenPut : List (Action 2) :=
  [.init 0 1, stepOf 0, stepOf 0, stepOf 0, .init 0 1, stepOf 0, stepOf 0, stepOf 0,
    .free 0 1, stepOf 0, stepOf 0, .call 1 3 (.put default), stepOf 1]

/-- The put on the live buffer ends the process. -/
theorem put_exits_after_free : ∃ t, Runs.run Process.step (.start 2) freeThenPut = some t ∧
    t.stage 3 = .live ∧ (t.pc 1).uses 3 = true ∧ t.exited = true :=
  ⟨_, rfl, rfl, rfl, rfl⟩

end HexrotPxiCom.CircularBuffer
