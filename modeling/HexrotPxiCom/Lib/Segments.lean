import Mathlib.Data.List.Basic

/-!
# Streams of records cut into segments

Every record has `k` elements. A stream of records is read in segments of at most `k`
elements each; the segments are the records exactly when there are as many of them as
records have arrived.
-/

namespace HexrotPxiCom.Segments

set_option autoImplicit false

universe u v
variable {α : Type u} {β : Type v} {k : Nat} {segments : List (List β)}

theorem length_flatten_le (h : ∀ s ∈ segments, s.length ≤ k) :
    segments.flatten.length ≤ k * segments.length := by
  induction segments with
  | nil => exact Nat.zero_le _
  | cons s segments ih =>
    have hs := h s List.mem_cons_self
    have hrest := ih fun s hs => h s (List.mem_cons_of_mem _ hs)
    rw [List.flatten_cons, List.length_append, List.length_cons, Nat.mul_succ]
    omega

theorem length_flatten_eq (h : ∀ s ∈ segments, s.length = k) :
    segments.flatten.length = k * segments.length := by
  induction segments with
  | nil => rfl
  | cons s segments ih =>
    have hs := h s List.mem_cons_self
    rw [List.flatten_cons, List.length_append, List.length_cons, Nat.mul_succ, hs,
      ih fun s hs => h s (List.mem_cons_of_mem _ hs)]
    omega

/-- One short segment leaves the stream short of one record for each segment. -/
theorem length_eq_of_flatten (h : ∀ s ∈ segments, s.length ≤ k)
    (htotal : segments.flatten.length = k * segments.length) : ∀ s ∈ segments, s.length = k := by
  induction segments with
  | nil => simp
  | cons s segments ih =>
    have hs := h s List.mem_cons_self
    have htail : ∀ s ∈ segments, s.length ≤ k := fun s hs => h s (List.mem_cons_of_mem _ hs)
    have hrest := length_flatten_le htail
    rw [List.flatten_cons, List.length_append, List.length_cons, Nat.mul_succ] at htotal
    intro r hr
    rcases List.mem_cons.mp hr with rfl | hr
    · omega
    · exact ih htail (by omega) r hr

/-- The segments are whole exactly when their number is that of the records that have
arrived. -/
theorem whole_iff (hk : 0 < k) (h : ∀ s ∈ segments, s.length ≤ k) :
    segments.length ≤ segments.flatten.length / k ↔ ∀ s ∈ segments, s.length = k := by
  constructor
  · intro hle
    have hup := length_flatten_le h
    have hlow : segments.length * k ≤ segments.flatten.length := (Nat.le_div_iff_mul_le hk).mp hle
    apply length_eq_of_flatten h
    rw [Nat.mul_comm] at hlow
    exact Nat.le_antisymm hup hlow
  · intro hall
    have hdiv : segments.flatten.length / k = segments.length := by
      rw [length_flatten_eq hall, Nat.mul_div_cancel_left _ hk]
    exact Nat.le_of_eq hdiv.symm

/-- Whole segments of a stream of records are its first records. -/
theorem eq_map_take {f : α → List β} (hf : ∀ a, (f a).length = k) {l : List α} (hk : 0 < k)
    (h : ∀ s ∈ segments, s.length = k) (hpre : segments.flatten <+: l.flatMap f) :
    segments = (l.take segments.length).map f := by
  induction segments generalizing l with
  | nil => rfl
  | cons s segments ih =>
    have hs := h s List.mem_cons_self
    cases l with
    | nil =>
      have hnil := List.prefix_nil.mp hpre
      rw [List.flatten_cons, List.append_eq_nil_iff] at hnil
      rw [hnil.1] at hs
      exact absurd hs.symm (Nat.ne_of_gt hk)
    | cons a l =>
      obtain ⟨rest, hrest⟩ := hpre
      rw [List.flatten_cons, List.flatMap_cons, List.append_assoc] at hrest
      obtain ⟨rfl, htail⟩ := List.append_inj hrest (by rw [hs, hf])
      rw [List.length_cons, List.take_succ_cons, List.map_cons,
        ← ih (fun s hs => h s (List.mem_cons_of_mem _ hs)) ⟨rest, htail⟩]

end HexrotPxiCom.Segments
