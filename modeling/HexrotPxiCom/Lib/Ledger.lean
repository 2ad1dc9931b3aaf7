import HexrotPxiCom.Lib.Runs
import Mathlib.Algebra.Order.Group.Multiset

/-!
# A ledger of resources

A program acquires, uses and releases resources. The ledger accepts a trace of entries when
nothing is acquired that is held, and only what is held is used or released.
-/

namespace HexrotPxiCom

set_option autoImplicit false

universe u
variable {ρ : Type u}

inductive Entry (ρ : Type u) where
  | acquire (r : ρ)
  | use (r : ρ)
  | release (r : ρ)
  deriving DecidableEq

namespace Ledger

variable [DecidableEq ρ]

/-- What is held after an entry that is accepted. -/
def post (held : Multiset ρ) : Entry ρ → Option (Multiset ρ)
  | .acquire r => if r ∈ held then none else some (r ::ₘ held)
  | .use r => if r ∈ held then some held else none
  | .release r => if r ∈ held then some (held.erase r) else none

/-- The trace is accepted, and leads from what was held to what is held. -/
def Leaves (held : Multiset ρ) (es : List (Entry ρ)) (left : Multiset ρ) : Prop :=
  Runs.run post held es = some left

instance (held : Multiset ρ) (es : List (Entry ρ)) (left : Multiset ρ) :
    Decidable (Leaves held es left) := inferInstanceAs (Decidable (_ = _))

section
variable {held mid left : Multiset ρ} {es fs : List (Entry ρ)} {r : ρ}

theorem Leaves.nil (held : Multiset ρ) : Leaves held [] held := rfl

theorem Leaves.append (h : Leaves held es mid) (h' : Leaves mid fs left) :
    Leaves held (es ++ fs) left :=
  Runs.run_append_eq_some.mpr ⟨mid, h, h'⟩

theorem Leaves.acquire (hr : r ∉ held) (h : Leaves (r ::ₘ held) es left) :
    Leaves held (.acquire r :: es) left := by
  refine Runs.run_cons_eq_some.mpr ⟨r ::ₘ held, ?_, h⟩
  exact if_neg hr

theorem Leaves.use (hr : r ∈ held) (h : Leaves held es left) :
    Leaves held (.use r :: es) left := by
  refine Runs.run_cons_eq_some.mpr ⟨held, ?_, h⟩
  exact if_pos hr

theorem Leaves.release (h : Leaves held es left) : Leaves (r ::ₘ held) (.release r :: es) left := by
  refine Runs.run_cons_eq_some.mpr ⟨held, ?_, h⟩
  rw [post, if_pos (Multiset.mem_cons_self r held), Multiset.erase_cons_head]

theorem Leaves.cons_iff {e : Entry ρ} :
    Leaves held (e :: es) left ↔ ∃ mid, post held e = some mid ∧ Leaves mid es left :=
  Runs.run_cons_eq_some

/-- Nothing is held twice. -/
theorem Leaves.nodup (h : Leaves held es left) (hheld : held.Nodup) : left.Nodup := by
  refine Runs.run_invariant (I := Multiset.Nodup) ?_ h hheld
  intro held e mid hheld he
  cases e with
  | acquire r =>
    simp only [post] at he
    split at he
    · cases he
    · rename_i hr
      cases he
      exact Multiset.nodup_cons.mpr ⟨hr, hheld⟩
  | use r =>
    simp only [post] at he
    split at he
    · cases he
      exact hheld
    · cases he
  | release r =>
    simp only [post] at he
    split at he
    · cases he
      exact hheld.erase r
    · cases he

/-- What was held and what was acquired is what was released and what is still held. -/
theorem Leaves.balance (h : Leaves held es left) (r : ρ) :
    held.count r + es.count (.acquire r) = es.count (.release r) + left.count r := by
  induction es generalizing held with
  | nil =>
    cases h
    simp
  | cons e es ih =>
    obtain ⟨mid, he, hrest⟩ := Leaves.cons_iff.mp h
    have hcount := ih hrest
    cases e with
    | acquire x =>
      simp only [post] at he
      split at he
      · cases he
      · cases he
        rw [Multiset.count_cons] at hcount
        by_cases hx : r = x
        · subst hx
          simp at hcount ⊢
          omega
        · simp [hx, Ne.symm hx] at hcount ⊢
          exact hcount
    | use x =>
      simp only [post] at he
      split at he
      · cases he
        simpa [List.count_cons] using hcount
      · cases he
    | release x =>
      simp only [post] at he
      split at he
      · rename_i hmem
        cases he
        by_cases hx : r = x
        · subst hx
          have hpos := Multiset.count_pos.mpr hmem
          simp at hcount ⊢
          omega
        · rw [Multiset.count_erase_of_ne hx] at hcount
          simp [Ne.symm hx] at hcount ⊢
          exact hcount
      · cases he

/-- Each release belongs to an acquisition of its own: this holds for every beginning of an
accepted trace. -/
theorem Leaves.released_le (h : Leaves 0 (es ++ fs) left) (r : ρ) :
    es.count (.release r) ≤ es.count (.acquire r) ∧
      es.count (.acquire r) ≤ es.count (.release r) + 1 := by
  obtain ⟨mid, hes, -⟩ := Runs.run_append_eq_some.mp h
  have hbalance := Leaves.balance hes r
  have hnodup : mid.Nodup := Leaves.nodup hes Multiset.nodup_zero
  have hone := Multiset.nodup_iff_count_le_one.mp hnodup r
  rw [Multiset.count_zero] at hbalance
  omega

end

end Ledger

end HexrotPxiCom
