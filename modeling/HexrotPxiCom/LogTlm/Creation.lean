import HexrotPxiCom.LogTlm.Setup

/-!
# The failures of `logTlm_createBuffer`

What is left behind for every outcome of the two `calloc` and of `pthread_mutex_init`.
-/

namespace HexrotPxiCom.LogTlm

set_option autoImplicit false

open State

universe u
variable {ρ : Type u}

/-- A pointer to a block of `n` elements. -/
def State.PointsTo (n : Int) (size : Nat) (p : Option Nat) (s : State ρ) : Prop :=
  ∃ b, p = some b ∧ (s.heap b).size = n.toNat * size

/-- What the header says of the result `r`: 0 for both buffers and the mutex, and -1 for nothing
at all. -/
structure AllOrNothing (mutexInit : Bool) (n : Int) (size : Nat) (s : State ρ)
    (r : Int × State ρ) : Prop where
  all : r.1 = 0 → r.2.PointsTo n size r.2.pBuffer1 ∧ r.2.PointsTo n size r.2.pBuffer2 ∧
    mutexInit = true
  pointers : r.1 = -1 → r.2.pBuffer1 = none ∧ r.2.pBuffer2 = none
  freed : r.1 = -1 → ∀ b, s.allocated ≤ b → b < r.2.allocated → (r.2.heap b).size = 0
  unchanged : r.1 = -1 → r.2.countBufferMax = s.countBufferMax ∧
    r.2.sizeElementInBuffer = s.sizeElementInBuffer

/-- A result -1 that left the counters as they were. -/
theorem failed_allOrNothing {mutexInit : Bool} {n : Int} {size : Nat} {s t : State ρ}
    (h1 : t.pBuffer1 = none) (h2 : t.pBuffer2 = none)
    (hfreed : ∀ b, s.allocated ≤ b → b < t.allocated → (t.heap b).size = 0)
    (hmax : t.countBufferMax = s.countBufferMax)
    (hsize : t.sizeElementInBuffer = s.sizeElementInBuffer) :
    AllOrNothing mutexInit n size s (-1, t) where
  all := by
    intro h
    cases h
  pointers := fun _ => ⟨h1, h2⟩
  freed := fun _ => hfreed
  unchanged := fun _ => ⟨hmax, hsize⟩

theorem createdBoth_allOrNothing [Inhabited ρ] {n : Int} {size : Nat} {s : State ρ} :
    AllOrNothing true n size s (0, s.createdBoth n size) where
  all := by
    intro _
    refine ⟨⟨s.allocated, rfl, ?_⟩, ⟨s.allocated + 1, rfl, ?_⟩, rfl⟩
    · simp [State.createdBoth, State.addBlock]
    · simp [State.createdBoth, State.addBlock]
  pointers := by
    intro h
    cases h
  freed := by
    intro h
    cases h
  unchanged := by
    intro h
    cases h

/-- Two failures are not handled: that of the first `calloc`, which is taken for a success when
the mutex is initialised, and that of the mutex behind two successes. -/
theorem createBuffer_allOrNothing_iff [Inhabited ρ] (env : Alloc) (n : Int) (size : Nat)
    (s : State ρ) (hn : 0 < n) (hsize : 0 < size) (hnone : s.pBuffer2 = none) :
    AllOrNothing env.mutexInit n size s (s.createBuffer env n size) ↔
      (callocs env.calloc1 n size ∧ (env.calloc2 = false ∨ env.mutexInit = true)) ∨
        (¬ callocs env.calloc1 n size ∧ env.mutexInit = false) := by
  by_cases h1 : callocs env.calloc1 n size
  · by_cases h2 : callocs env.calloc2 n size
    · rw [createBuffer_both hn hsize h1 h2]
      cases hmutex : env.mutexInit with
      | true => exact ⟨fun _ => Or.inl ⟨h1, Or.inr rfl⟩, fun _ => createdBoth_allOrNothing⟩
      | false =>
        constructor
        · intro h
          cases (h.pointers rfl).1
        · rintro (⟨-, h | h⟩ | ⟨h, -⟩)
          · rw [h2.1] at h
            cases h
          · cases h
          · exact absurd h1 h
    · have hcalloc2 : env.calloc2 = false := by
        cases hok : env.calloc2 with
        | true => exact absurd ⟨hok, h1.2⟩ h2
        | false => rfl
      rw [createBuffer_second_failed hn hsize h1 h2]
      refine ⟨fun _ => Or.inl ⟨h1, Or.inl hcalloc2⟩, fun _ => ?_⟩
      refine failed_allOrNothing rfl rfl ?_ rfl rfl
      intro b hle hlt
      have hb : b = s.allocated := by
        change b < s.allocated + 1 at hlt
        omega
      subst hb
      simp [State.freeBlock]
  · rw [createBuffer_first_failed hn hsize h1]
    cases hmutex : env.mutexInit with
    | true =>
      constructor
      · intro h
        obtain ⟨b, hb, -⟩ := (h.all rfl).1
        cases hb
      · rintro (⟨h, -⟩ | ⟨-, h⟩)
        · exact absurd h h1
        · cases h
    | false =>
      refine ⟨fun _ => Or.inr ⟨h1, rfl⟩, fun _ => ?_⟩
      refine failed_allOrNothing rfl hnone ?_ rfl rfl
      intro b hle hlt
      change b < s.allocated at hlt
      omega

theorem createBuffer_allOrNothing_second :
    AllOrNothing true 3 8 (State.initial : State Nat)
      (State.initial.createBuffer { calloc2 := false } 3 8) :=
  (createBuffer_allOrNothing_iff { calloc2 := false } 3 8 State.initial (by decide) (by decide)
    rfl).mpr (Or.inl ⟨by decide, Or.inl rfl⟩)

/-- Without memory for the first buffer 0 is returned, with no buffer at all. Without the mutex -1
is returned, with both. -/
theorem createBuffer_not_allOrNothing :
    (State.initial.createBuffer { calloc1 := false } 3 8 : Int × State Nat).1 = 0 ∧
    (State.initial.createBuffer { calloc1 := false } 3 8 : Int × State Nat).2.pBuffer1 = none ∧
    ¬ AllOrNothing true 3 8 (State.initial : State Nat)
      (State.initial.createBuffer { calloc1 := false } 3 8) ∧
    (State.initial.createBuffer { mutexInit := false } 3 8 : Int × State Nat).1 = -1 ∧
    (State.initial.createBuffer { mutexInit := false } 3 8 : Int × State Nat).2.pBuffer1 = some 0 ∧
    ¬ AllOrNothing false 3 8 (State.initial : State Nat)
      (State.initial.createBuffer { mutexInit := false } 3 8) := by
  refine ⟨rfl, rfl, ?_, rfl, rfl, ?_⟩
  · intro h
    obtain ⟨b, hb, -⟩ := (h.all rfl).1
    cases hb
  · intro h
    cases (h.pointers rfl).1

end HexrotPxiCom.LogTlm
