import HexrotPxiCom.Lib.Runs

/-!
# One flag to start a worker and to stop it

The worker waits until the flag is set, and works until it is cleared. The closer clears the
flag and joins the worker. A worker that has not seen the flag set by then waits for ever.
-/

namespace HexrotPxiCom

set_option autoImplicit false

universe u v
variable {σ : Type u} {α : Type v}

/-- What a machine says about one worker, and what its steps keep. -/
structure Handshake (step : σ → α → Option σ) where
  /-- A fact about the reachable states. -/
  Reachable : σ → Prop
  ready : σ → Bool
  /-- The worker has not left the wait before its loop. -/
  Waiting : σ → Prop
  /-- The closer has cleared the flag and waits for the worker. -/
  Joining : σ → Prop
  reachable {s t : σ} {a : α} : Reachable s → step s a = some t → Reachable t
  cleared {s : σ} : Reachable s → Joining s → ready s = false
  begins {s t : σ} {a : α} : Reachable s → step s a = some t → Joining t → ¬ Joining s →
    Waiting s → Waiting t
  back {s t : σ} {a : α} : Reachable s → step s a = some t → Waiting t → Waiting s
  stays {s t : σ} {a : α} : Reachable s → step s a = some t → Joining s → Waiting s →
    Joining t ∧ Waiting t

namespace Handshake

variable {step : σ → α → Option σ} (h : Handshake step) {s t : σ} {a : α} {as : List α}

/-- The closer waits for a worker that waits for a flag which nobody sets any more. -/
def Stuck (s : σ) : Prop := h.Joining s ∧ h.Waiting s ∧ h.ready s = false

/-- The closer begins to wait only for a worker that has left its wait. -/
def Late (s : σ) (a : α) : Prop :=
  ∀ t, step s a = some t → h.Joining t → ¬ h.Joining s → ¬ h.Waiting s

theorem stuck_iff (hs : h.Reachable s) : h.Stuck s ↔ h.Joining s ∧ h.Waiting s := by
  constructor
  · rintro ⟨hj, hw, -⟩
    exact ⟨hj, hw⟩
  · rintro ⟨hj, hw⟩
    exact ⟨hj, hw, h.cleared hs hj⟩

/-- Nobody gets out of it. -/
theorem stuck_run (hs : h.Reachable s) (hstuck : h.Stuck s) (hr : Runs.run step s as = some t) :
    h.Stuck t := by
  have hkeep : h.Reachable t ∧ h.Stuck t := by
    refine Runs.run_invariant (I := fun s => h.Reachable s ∧ h.Stuck s) ?_ hr ⟨hs, hstuck⟩
    rintro s a t ⟨hs, hj, hw, -⟩ ha
    have ht := h.reachable hs ha
    exact ⟨ht, (h.stuck_iff ht).mpr (h.stays hs ha hj hw)⟩
  exact hkeep.2

theorem stuck_of_early (hs : h.Reachable s) (ha : step s a = some t) (hearly : ¬ h.Late s a) :
    h.Stuck t := by
  unfold Late at hearly
  push Not at hearly
  obtain ⟨u, hu, hj, hnot, hw⟩ := hearly
  cases ha.symm.trans hu
  exact (h.stuck_iff (h.reachable hs ha)).mpr ⟨hj, h.begins hs ha hj hnot hw⟩

theorem not_stuck_step (hs : h.Reachable s) (hfree : ¬ h.Stuck s) (hlate : h.Late s a)
    (ha : step s a = some t) : ¬ h.Stuck t := by
  rintro ⟨hj, hw, -⟩
  have hw' := h.back hs ha hw
  by_cases hjs : h.Joining s
  · exact hfree ((h.stuck_iff hs).mpr ⟨hjs, hw'⟩)
  · exact hlate t ha hj hjs hw'

/-- A run is free of stuck states exactly when each flag is cleared late enough. -/
theorem never_stuck_iff (hs : h.Reachable s) (hfree : ¬ h.Stuck s) :
    Runs.Along step (fun s => ¬ h.Stuck s) s as ↔ Runs.Guarded step h.Late s as := by
  induction as generalizing s with
  | nil => exact ⟨fun _ => trivial, fun _ => hfree⟩
  | cons a as ih =>
    unfold Runs.Along Runs.Guarded
    cases ha : step s a with
    | none =>
      refine ⟨fun _ => ⟨?_, trivial⟩, fun _ => ⟨hfree, trivial⟩⟩
      intro t ht
      cases ha.symm.trans ht
    | some t =>
      dsimp only
      have ht := h.reachable hs ha
      constructor
      · rintro ⟨-, hrest⟩
        have hfree' : ¬ h.Stuck t := hrest.head
        refine ⟨?_, (ih ht hfree').mp hrest⟩
        by_contra hearly
        exact hfree' (h.stuck_of_early hs ha hearly)
      · rintro ⟨hlate, hrest⟩
        exact ⟨hfree, (ih ht (h.not_stuck_step hs hfree hlate ha)).mpr hrest⟩

end Handshake

end HexrotPxiCom
