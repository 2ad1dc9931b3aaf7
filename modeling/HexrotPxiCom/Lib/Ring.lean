import Mathlib.Data.List.Basic

/-!
# A ring of slots with one slot wasted

`m` slots, an index `tail` of the oldest element and an index `head` of the next free slot,
moved without a modulo. The ring is empty when the two meet and full when `head` is one
slot behind `tail`. `Holds` says which list is stored; the slots outside of it need not be there.
-/

namespace HexrotPxiCom.Ring

set_option autoImplicit false

universe u
variable {α : Type u}

def next (m i : Nat) : Nat := if i + 1 = m then 0 else i + 1

/-- The slot `i` places after `t`. -/
def index (m t i : Nat) : Nat := if t + i < m then t + i else t + i - m

theorem index_lt {m t i : Nat} (ht : t < m) (hi : i < m) : index m t i < m := by
  unfold index
  split <;> omega

theorem index_zero {m t : Nat} (ht : t < m) : index m t 0 = t := by
  simp [index, ht]

theorem index_ne {m t i j : Nat} (hi : i < j) (hj : j < m) : index m t i ≠ index m t j := by
  unfold index
  split <;> split <;> omega

theorem next_index {m t i : Nat} (ht : t < m) (hi : i + 1 < m) :
    next m (index m t i) = index m t (i + 1) := by
  unfold next index
  split <;> split <;> split <;> omega

theorem index_next {m t i : Nat} (hi : i + 1 < m) :
    index m (next m t) i = index m t (i + 1) := by
  unfold next index
  split <;> split <;> split <;> omega

theorem next_lt {m t : Nat} (ht : t < m) : next m t < m := by
  unfold next
  split <;> omega

/-- The slots hold the list `q` from `tail` up to `head`. -/
structure Holds (cells : List α) (m head tail : Nat) (q : List α) : Prop where
  tail_lt : tail < m
  length_lt : q.length < m
  head_eq : head = index m tail q.length
  cells_eq : ∀ i < q.length, cells[index m tail i]? = q[i]?

namespace Holds
variable {cells : List α} {m head tail : Nat} {q : List α}

theorem head_lt (h : Holds cells m head tail q) : head < m := by
  rw [h.head_eq]
  exact index_lt h.tail_lt h.length_lt

theorem empty (hm : 0 < m) : Holds cells m 0 0 [] where
  tail_lt := hm
  length_lt := hm
  head_eq := (index_zero hm).symm
  cells_eq := by
    intro i hi
    simp at hi

theorem head_eq_tail_iff (h : Holds cells m head tail q) : head = tail ↔ q = [] := by
  have hhead := h.head_eq
  have hlen := h.length_lt
  have htail := h.tail_lt
  constructor
  · intro he
    apply List.eq_nil_of_length_eq_zero
    unfold index at hhead
    split at hhead <;> omega
  · rintro rfl
    rw [hhead]
    exact index_zero htail

theorem next_head_eq_tail_iff (h : Holds cells m head tail q) :
    next m head = tail ↔ q.length + 1 = m := by
  have hhead := h.head_eq
  have hlen := h.length_lt
  have htail := h.tail_lt
  unfold next
  unfold index at hhead
  constructor
  · intro he
    split at he <;> split at hhead <;> omega
  · intro he
    split <;> split at hhead <;> omega

theorem length_eq (h : Holds cells m head tail q) :
    q.length = if tail ≤ head then head - tail else m + head - tail := by
  have hhead := h.head_eq
  have hlen := h.length_lt
  have htail := h.tail_lt
  unfold index at hhead
  split at hhead <;> split <;> omega

theorem push (h : Holds cells m head tail q) (a : α) (hroom : q.length + 1 < m)
    (hslot : head < cells.length) :
    Holds (cells.set head a) m (next m head) tail (q ++ [a]) where
  tail_lt := h.tail_lt
  length_lt := by simpa using hroom
  head_eq := by
    rw [h.head_eq, next_index h.tail_lt hroom, List.length_append, List.length_singleton]
  cells_eq := by
    intro i hi
    rw [List.length_append, List.length_singleton] at hi
    rcases Nat.lt_or_eq_of_le (Nat.le_of_lt_succ hi) with hold | rfl
    · have hne : head ≠ index m tail i := by
        rw [h.head_eq]
        exact (index_ne hold h.length_lt).symm
      rw [List.getElem?_set_ne hne, List.getElem?_append_left hold]
      exact h.cells_eq i hold
    · rw [← h.head_eq, List.getElem?_set_self hslot, List.getElem?_concat_length]

theorem pop (h : Holds cells m head tail q) {a : α} {r : List α} (hq : q = a :: r) :
    cells[tail]? = some a ∧ Holds cells m head (next m tail) r := by
  subst hq
  have hlen := h.length_lt
  rw [List.length_cons] at hlen
  constructor
  · have h0 := h.cells_eq 0 (by simp)
    rw [index_zero h.tail_lt] at h0
    simpa using h0
  · refine ⟨next_lt h.tail_lt, by omega, ?_, ?_⟩
    · rw [index_next hlen, h.head_eq, List.length_cons]
    · intro i hi
      rw [index_next (by omega), h.cells_eq (i + 1) (by simpa using hi),
        List.getElem?_cons_succ]

/-- A push into a full ring overwrites the wasted slot and gives up the oldest element. -/
theorem push_full (h : Holds cells m head tail q) (a : α) (hm : 1 < m)
    (hfull : q.length + 1 = m) (hslot : head < cells.length) :
    Holds (cells.set head a) m (next m head) (next m tail) (q.tail ++ [a]) := by
  cases hq : q with
  | nil =>
    rw [hq] at hfull
    simp at hfull
    omega
  | cons b r =>
    have hpop := (h.pop hq).2
    rw [hq, List.length_cons] at hfull
    rw [List.tail_cons]
    exact hpop.push a (by omega) hslot

end Holds

end HexrotPxiCom.Ring
