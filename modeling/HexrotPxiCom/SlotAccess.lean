import HexrotPxiCom.CircularBuffer

/-!
# The slots that the circular buffer accesses

The allocation covers the slots when the number of bytes did not wrap on its way to `malloc`.
-/

namespace HexrotPxiCom.CircularBuffer

set_option autoImplicit false

open BoundedFifo

/-- The bytes that `circular_buf_init` asks `malloc` for. -/
def requestedBytes (size : Nat) : Nat := sizeT (sizeT (size + 1 : Nat) * sizeofCommandStream : Nat)

/-- The indices of the slots that a call reads or writes. -/
def accessed (cbuf : CircularBuf) : Op CommandStream → List Nat
  | .put _ => [cbuf.head]
  | .get _ => if circularBufEmpty cbuf then [] else [cbuf.tail]
  | .size => []

/-- The indices that are accessed by a sequence of calls, to the first one out of the block. -/
def accesses (cbuf : CircularBuf) : List (Nat × Op CommandStream) → List Nat
  | [] => []
  | op :: ops => accessed cbuf op.2 ++
    match call cbuf op with
    | none => []
    | some r => accesses r.2 ops

/-- Every slot that is ever accessed ends within the bytes. -/
def Covers (bytes : Nat) (cbuf : CircularBuf) : Prop :=
  ∀ ops, ∀ i ∈ accesses cbuf ops, (i + 1) * sizeofCommandStream ≤ bytes

section
variable {env : InitEnv} {size n bytes : Nat} {cbuf t : CircularBuf} {q : List CommandStream}
  {op : Nat × Op CommandStream} {ops : List (Nat × Op CommandStream)}

/-- A call whose slots are in the block is defined, and the block stays. -/
theorem call_of_accessed (h : ∀ i ∈ accessed cbuf op.2, i < cbuf.buffer.length) :
    ∃ r, call cbuf op = some r ∧ r.2.buffer.length = cbuf.buffer.length := by
  obtain ⟨thread, op⟩ := op
  cases op with
  | put a =>
    have hslot : cbuf.head < cbuf.buffer.length := h cbuf.head List.mem_cons_self
    rw [call, circularBufPut, if_pos hslot]
    refine ⟨_, rfl, ?_⟩
    dsimp only
    rw [buffer_advancePointer, List.length_set]
  | get data =>
    rw [call, circularBufGet]
    by_cases hempty : circularBufEmpty cbuf = true
    · rw [if_pos hempty]
      exact ⟨_, rfl, rfl⟩
    · have hslot : cbuf.tail < cbuf.buffer.length := by
        apply h
        rw [accessed, if_neg hempty]
        exact List.mem_cons_self
      rw [if_neg hempty, List.getElem?_eq_getElem hslot]
      exact ⟨_, rfl, rfl⟩
  | size => exact ⟨_, rfl, rfl⟩

theorem calls_of_accesses (h : ∀ i ∈ accesses cbuf ops, i < cbuf.buffer.length) :
    ∃ r, calls cbuf ops = some r := by
  induction ops generalizing cbuf with
  | nil => exact ⟨_, rfl⟩
  | cons op ops ih =>
    obtain ⟨r, hr, hlength⟩ := call_of_accessed fun i hi => h i (List.mem_append_left _ hi)
    have hrest : ∀ i ∈ accesses r.2 ops, i < r.2.buffer.length := by
      intro i hi
      rw [hlength]
      apply h
      rw [accesses, hr]
      exact List.mem_append_right _ hi
    obtain ⟨rs, hrs⟩ := ih hrest
    exact ⟨(r.1 :: rs.1, rs.2), by rw [calls, hr, Option.bind_some, hrs, Option.map_some]⟩

theorem Stores.accessed_lt (h : Stores n cbuf q) {i : Nat} (op : Op CommandStream)
    (hi : i ∈ accessed cbuf op) : i < n + 1 := by
  rw [← h.max_eq]
  cases op with
  | put a =>
    rw [List.mem_singleton.mp hi]
    exact h.ring.head_lt
  | get data =>
    rw [accessed] at hi
    split at hi
    · cases hi
    · rw [List.mem_singleton.mp hi]
      exact h.ring.tail_lt
  | size => cases hi

theorem Stores.accesses_lt (h : Stores n cbuf q) (hn : 1 ≤ n) :
    ∀ i ∈ accesses cbuf ops, i < n + 1 := by
  induction ops generalizing cbuf q with
  | nil =>
    intro i hi
    cases hi
  | cons op ops ih =>
    obtain ⟨t, hcall, ht⟩ := h.call_eq hn op.1 op.2
    intro i hi
    rw [accesses, hcall] at hi
    rcases List.mem_append.mp hi with hi | hi
    · exact h.accessed_lt op.2 hi
    · exact ih ht i hi

theorem lt_div_iff (i bytes : Nat) :
    i < bytes / sizeofCommandStream ↔ (i + 1) * sizeofCommandStream ≤ bytes :=
  Nat.le_div_iff_mul_le (by decide)

/-- A block with fewer slots than the ring does not cover it. -/
theorem not_covers (hmax : (cbuf.max : Int) < sizeTRange) (hhead : cbuf.head = 0)
    (htail : cbuf.tail = 0) (hlength : cbuf.buffer.length = bytes / sizeofCommandStream)
    (hshort : cbuf.buffer.length < cbuf.max) : ¬ Covers bytes cbuf := by
  intro hcovers
  have hslots : ∀ i ∈ accesses cbuf (List.replicate (cbuf.buffer.length + 1) (0, .put default)),
      i < cbuf.buffer.length := by
    intro i hi
    rw [hlength]
    exact (lt_div_iff i bytes).mpr (hcovers _ i hi)
  obtain ⟨r, hr⟩ := calls_of_accesses hslots
  rw [puts_overflow hmax htail hshort default (by omega)] at hr
  cases hr

theorem circularBufInit_head (h : circularBufInit env size = some cbuf) : cbuf.head = 0 := by
  unfold circularBufInit at h
  split at h
  · cases h
  · split at h
    · cases h
      rfl
    · cases h

/-- `size + 1` itself wraps: the block is empty, and the first put accesses its slot 0. -/
theorem not_covers_wrapped (hhead : cbuf.head = 0) : ¬ Covers 0 cbuf := by
  intro hcovers
  have hfirst := hcovers [(0, .put default)] 0 (List.mem_append_left _ (by
    rw [accessed, hhead]
    exact List.mem_cons_self))
  exact absurd hfirst (by decide)

end

/-- The slots are covered exactly when the size in bytes did not wrap. -/
theorem circularBuf_covers_iff (env : InitEnv) (size : Nat) (cbuf : CircularBuf)
    (hsize : (size : Int) < sizeTRange) (h : circularBufInit env size = some cbuf) :
    Covers (requestedBytes size) cbuf ↔
      (((size + 1) * sizeofCommandStream : Nat) : Int) < sizeTRange := by
  by_cases hplus : ((size + 1 : Nat) : Int) < sizeTRange
  · obtain ⟨hpos, hhead, htail, hmax, hlength⟩ := circularBufInit_cases hplus h
    have hbytes : requestedBytes size = sizeT ((size + 1) * sizeofCommandStream : Nat) := by
      rw [requestedBytes, sizeT_natCast hplus]
    rw [← hbytes] at hlength
    constructor
    · intro hcovers
      by_contra hwrap
      have hless : ¬ (size + 1) * sizeofCommandStream ≤ requestedBytes size := by
        rw [hbytes, le_sizeT_iff]
        exact hwrap
      refine not_covers (by rw [hmax]; exact hplus) hhead htail hlength ?_ hcovers
      rw [hlength, hmax]
      have hslot := (lt_div_iff size (requestedBytes size)).not.mpr hless
      omega
    · intro hfit ops i hi
      have hlt := (stores_init hplus h hfit).accesses_lt hpos i hi
      rw [hbytes, sizeT_natCast hfit]
      exact Nat.mul_le_mul_right _ hlt
  · have hwraps : sizeT (size + 1 : Nat) = 0 := by
      have heq : ((size + 1 : Nat) : Int) = sizeTRange := by omega
      rw [heq]
      decide
    have hbytes : requestedBytes size = 0 := by
      rw [requestedBytes, hwraps]
      decide
    have hmore : ¬ (((size + 1) * sizeofCommandStream : Nat) : Int) < sizeTRange := by
      have hle : size + 1 ≤ (size + 1) * sizeofCommandStream :=
        Nat.le_mul_of_pos_right _ (by decide)
      omega
    rw [hbytes]
    constructor
    · intro hcovers
      exact absurd hcovers (not_covers_wrapped (circularBufInit_head h))
    · intro hfit
      exact absurd hfit hmore

theorem circularBuf_covers_three : ∃ cbuf,
    circularBufInit ⟨some fun _ => default, true⟩ 3 = some cbuf ∧ requestedBytes 3 = 240 ∧
    Covers 240 cbuf := by
  have hinit : circularBufInit ⟨some fun _ => default, true⟩ 3 = some _ := rfl
  exact ⟨_, hinit, by decide,
    (circularBuf_covers_iff _ 3 _ (by decide) hinit).mpr (by decide)⟩

/-- Of the 2^62 slots of this size none is in the block: `malloc` is asked for 0 bytes. -/
theorem circularBuf_not_covers : ∃ cbuf,
    circularBufInit ⟨some fun _ => default, true⟩ (2 ^ 62 - 1) = some cbuf ∧
    requestedBytes (2 ^ 62 - 1) = 0 ∧ accesses cbuf [(0, .put default)] = [0] ∧
    ¬ Covers (requestedBytes (2 ^ 62 - 1)) cbuf := by
  have hinit : circularBufInit ⟨some fun _ => default, true⟩ (2 ^ 62 - 1) =
      some ⟨[], 0, 0, 2 ^ 62⟩ := by
    simp [circularBufInit, circularBufReset, sizeT, sizeTRange, sizeofCommandStream]
  have hbytes : requestedBytes (2 ^ 62 - 1) = 0 := by decide
  refine ⟨⟨[], 0, 0, 2 ^ 62⟩, hinit, hbytes, rfl, ?_⟩
  rw [hbytes]
  exact not_covers_wrapped rfl

end HexrotPxiCom.CircularBuffer
