import Mathlib.Data.Nat.Notation
import Mathlib.Tactic.Common

/-!
# Loops with an early exit

One pass of a loop goes on with a state (`inl`) or leaves the loop with a result (`inr`).
`loop body fuel` makes at most `fuel` passes; `Returns` says that some number of passes is
enough.
-/

namespace HexrotPxiCom

set_option autoImplicit false

universe u v
variable {σ : Type u} {β : Type v}

/-- At most `fuel` passes; `none` when they do not leave the loop. -/
def loop (body : σ → σ ⊕ β) : Nat → σ → Option β
  | 0, _ => none
  | fuel + 1, s =>
    match body s with
    | .inl t => loop body fuel t
    | .inr b => some b

namespace Loop

/-- The loop ends with `b`. -/
def Returns (body : σ → σ ⊕ β) (s : σ) (b : β) : Prop := ∃ fuel, loop body fuel s = some b

variable {body : σ → σ ⊕ β} {s t : σ} {b c : β} {fuel : Nat}

theorem loop_inl (h : body s = .inl t) : loop body (fuel + 1) s = loop body fuel t := by
  rw [loop, h]

theorem loop_inr (h : body s = .inr b) : loop body (fuel + 1) s = some b := by
  rw [loop, h]

/-- More fuel does not change the result. -/
theorem loop_add (h : loop body fuel s = some b) (k : Nat) : loop body (fuel + k) s = some b := by
  induction fuel generalizing s with
  | zero => cases h
  | succ fuel ih =>
    rw [Nat.succ_add]
    cases hs : body s with
    | inl t =>
      rw [loop_inl hs] at h ⊢
      exact ih h
    | inr c =>
      rw [loop_inr hs] at h ⊢
      exact h

theorem Returns.unique (hb : Returns body s b) (hc : Returns body s c) : b = c := by
  obtain ⟨m, hm⟩ := hb
  obtain ⟨n, hn⟩ := hc
  have h1 := loop_add hm n
  have h2 := loop_add hn m
  rw [Nat.add_comm, h1] at h2
  exact Option.some.inj h2

section
variable {I : σ → Prop} {Q : β → Prop}

/-- An invariant holds until the loop is left. -/
theorem Returns.invariant (hnext : ∀ s t, I s → body s = .inl t → I t)
    (hdone : ∀ s b, I s → body s = .inr b → Q b) (h : Returns body s b) (hs : I s) : Q b := by
  obtain ⟨fuel, h⟩ := h
  induction fuel generalizing s with
  | zero => cases h
  | succ fuel ih =>
    cases hbody : body s with
    | inl t =>
      rw [loop_inl hbody] at h
      exact ih (hnext s t hs hbody) h
    | inr c =>
      rw [loop_inr hbody] at h
      cases h
      exact hdone s b hs hbody

/-- A measure that goes down at each pass is fuel enough. -/
theorem loop_of_measure (m : σ → Nat) (hnext : ∀ s t, I s → body s = .inl t → I t ∧ m t < m s)
    (hs : I s) (hfuel : m s < fuel) : ∃ b, loop body fuel s = some b := by
  induction fuel generalizing s with
  | zero => exact absurd hfuel (Nat.not_lt_zero _)
  | succ fuel ih =>
    cases hbody : body s with
    | inl t =>
      obtain ⟨ht, hlt⟩ := hnext s t hs hbody
      rw [loop_inl hbody]
      exact ih ht (by omega)
    | inr b => exact ⟨b, loop_inr hbody⟩

/-- Total correctness: the invariant gives what holds at the end, the measure that there is
one. -/
theorem returns_of_measure (m : σ → Nat)
    (hnext : ∀ s t, I s → body s = .inl t → I t ∧ m t < m s)
    (hdone : ∀ s b, I s → body s = .inr b → Q b) (hs : I s) : ∃ b, Returns body s b ∧ Q b := by
  obtain ⟨b, hb⟩ := loop_of_measure m hnext hs (Nat.lt_succ_self _)
  have hreturns : Returns body s b := ⟨_, hb⟩
  exact ⟨b, hreturns, hreturns.invariant (fun s t hs ht => (hnext s t hs ht).1) hdone hs⟩

end

end Loop

end HexrotPxiCom
