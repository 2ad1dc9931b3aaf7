import Mathlib.Order.Filter.AtTopBot.Basic

/-!
# Sequences that settle

A sequence of states in which every change lowers a measure changes only finitely often. Where
what stays possible for ever is not ignored for ever, it settles in a state in which nothing is
left to be done.
-/

namespace HexrotPxiCom.Settling

set_option autoImplicit false

open Filter

universe u
variable {σ : Type u} {x : ℕ → σ} {m : σ → ℕ}

/-- From `n` on, each step keeps the state or lowers its measure. -/
def LowersFrom (x : ℕ → σ) (m : σ → ℕ) (n : ℕ) : Prop :=
  ∀ k ≥ n, x (k + 1) = x k ∨ m (x (k + 1)) < m (x k)

theorem LowersFrom.mono {n k : ℕ} (h : LowersFrom x m n) (hk : n ≤ k) : LowersFrom x m k :=
  fun i hi => h i (Nat.le_trans hk hi)

theorem LowersFrom.le {n : ℕ} (h : LowersFrom x m n) (k : ℕ) : m (x (n + k)) ≤ m (x n) := by
  induction k with
  | zero => exact Nat.le_refl _
  | succ k ih =>
    rcases h (n + k) (Nat.le_add_right n k) with heq | hlt
    · rw [← Nat.add_assoc, heq]
      exact ih
    · exact Nat.le_trans (Nat.le_of_lt hlt) ih

theorem const_of_steps {n : ℕ} (h : ∀ k ≥ n, x (k + 1) = x k) (k : ℕ) : x (n + k) = x n := by
  induction k with
  | zero => rfl
  | succ k ih => rw [← Nat.add_assoc, h (n + k) (Nat.le_add_right n k), ih]

/-- The induction is on the measure: a change starts over with a lower one. -/
theorem LowersFrom.eventually_const {n : ℕ} (h : LowersFrom x m n) :
    ∃ s, ∀ᶠ k in atTop, x k = s := by
  obtain ⟨b, hb⟩ : ∃ b, m (x n) < b := ⟨_, Nat.lt_succ_self _⟩
  induction b generalizing n with
  | zero => exact absurd hb (Nat.not_lt_zero _)
  | succ b ih =>
    by_cases hsteps : ∀ k ≥ n, x (k + 1) = x k
    · refine ⟨x n, eventually_atTop.mpr ⟨n, fun k hk => ?_⟩⟩
      have hconst := const_of_steps hsteps (k - n)
      rw [Nat.add_sub_cancel' hk] at hconst
      exact hconst
    · obtain ⟨k, hk⟩ := not_forall.mp hsteps
      obtain ⟨hk, hne⟩ := Classical.not_imp.mp hk
      rcases h k hk with heq | hlt
      · exact absurd heq hne
      · have hle := h.le (k - n)
        rw [Nat.add_sub_cancel' hk] at hle
        exact ih (h.mono (Nat.le_add_right_of_le hk) : LowersFrom x m (k + 1)) (by omega)

/-- A sequence settles where it is allowed to stay. -/
theorem settles {Rest : σ → Prop}
    (hlower : ∀ᶠ k in atTop, x (k + 1) = x k ∨ m (x (k + 1)) < m (x k))
    (hfair : ∀ s, (∀ᶠ k in atTop, x k = s) → Rest s) :
    ∃ s, Rest s ∧ ∀ᶠ k in atTop, x k = s := by
  obtain ⟨n, hn⟩ := eventually_atTop.mp hlower
  obtain ⟨s, hs⟩ := LowersFrom.eventually_const (n := n) hn
  exact ⟨s, hfair s hs, hs⟩

end HexrotPxiCom.Settling
