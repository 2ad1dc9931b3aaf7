import HexrotPxiCom.LogTlm.Buffers
import HexrotPxiCom.LogTlm.Turns

/-!
# The order of the records in the log files

Whole calls of `logTlm_write` and whole turns of the loop of `logTlm_run`, interleaved. A
turn flushes buffer 1 before buffer 2, so the files keep the order of the writes as long
as buffer 1 never fills up while buffer 2 is still waiting.
-/

namespace HexrotPxiCom.LogTlm

set_option autoImplicit false

open State

universe u
variable {ρ : Type u}

/-- The list is made of copies of elements of `acc`, and a copy of an earlier element never
stands behind a copy of a later one. -/
def InOrder (content acc : List ρ) : Prop :=
  ∃ idx : List Nat, idx.Pairwise (· ≤ ·) ∧ content.map some = idx.map fun i => acc[i]?

theorem inOrder_of_prefix {content acc : List ρ} (h : content <+: acc) : InOrder content acc := by
  refine ⟨List.range content.length, List.pairwise_le_range, ?_⟩
  apply List.ext_getElem?
  intro i
  by_cases hi : i < content.length
  · simp [hi, h.getElem hi]
  · simp [hi]

/-- The number of records that a turn has to flush. -/
def State.countToFlush (s : State ρ) : Int :=
  (if s.isFullBuffer1 then s.countBufferMax else 0) +
    if s.isFullBuffer2 then s.countBufferMax else 0

/-- stdio succeeds, a turn finds numbers for the files that it fills, and no write fills the last
slot of buffer 1 while buffer 2 is full. -/
def FirstFirst (t : Turns ρ) : Turn ρ → Prop
  | .write _ _ => t.log.pBufferCurrent = t.log.pBuffer1 →
      t.log.countBufferCurrent + 1 = t.log.countBufferMax → t.log.isFullBuffer2 = false
  | .run env io2 => env.stdio.Success ∧ io2.Success ∧
      (env.tryLock = true → t.log.file.CanNumber t.log.countToFlush)

instance (t : Turns ρ) : ∀ a, Decidable (FirstFirst t a)
  | .write _ _ => inferInstanceAs (Decidable (_ → _ → _))
  | .run _ _ => inferInstanceAs (Decidable (_ ∧ _ ∧ (_ → _)))

namespace Turns

/-- The accepted records of buffer 1 that a turn has still to flush. -/
def waiting1 (s : State ρ) : List ρ := if s.isFullBuffer1 then s.cellsAt s.pBuffer1 else []

def waiting2 (s : State ρ) : List ρ := if s.isFullBuffer2 then s.cellsAt s.pBuffer2 else []

/-- Between two steps: the files, the full buffers in the order of their flush and the
current buffer hold the accepted records in order. -/
structure Queued (n recordPerFile : Int) (size p q : Nat) (t : Turns ρ) : Prop where
  ready : t.log.isThreadReady = true
  buffers : t.log.Buffers n size recordPerFile p q
  count_nonneg : 0 ≤ t.log.countBufferCurrent
  room : t.log.pBufferCurrent ≠ none → t.log.countBufferCurrent < n
  current :
    (t.log.pBufferCurrent = none ∧ t.log.isFullBuffer1 = true ∧ t.log.isFullBuffer2 = true) ∨
    (t.log.pBufferCurrent = some p ∧ t.log.isFullBuffer1 = false) ∨
    (t.log.pBufferCurrent = some q ∧ t.log.isFullBuffer2 = false)
  order : t.log.file.logContents ++ waiting1 t.log ++ waiting2 t.log ++
    (t.log.cellsAt t.log.pBufferCurrent).take t.log.countBufferCurrent.toNat = t.accepted

section
variable {n recordPerFile : Int} {size p q : Nat} {t : Turns ρ} {s : State ρ}

theorem waiting1_full (hb : s.Buffers n size recordPerFile p q) (hf : s.isFullBuffer1 = true) :
    waiting1 s = (s.heap p).cells := by
  rw [waiting1, hf, hb.buffer1, if_pos rfl, cellsAt_some]

theorem waiting1_empty (hf : s.isFullBuffer1 = false) : waiting1 s = [] := by
  rw [waiting1, hf, if_neg (by decide)]

theorem waiting2_full (hb : s.Buffers n size recordPerFile p q) (hf : s.isFullBuffer2 = true) :
    waiting2 s = (s.heap q).cells := by
  rw [waiting2, hf, hb.buffer2, if_pos rfl, cellsAt_some]

theorem waiting2_empty (hf : s.isFullBuffer2 = false) : waiting2 s = [] := by
  rw [waiting2, hf, if_neg (by decide)]

/-- The state of a write after the `memcpy` and the increment. -/
def copied (r : ρ) (s : State ρ) : State ρ :=
  { s.copyRecord r with countBufferCurrent := s.countBufferCurrent + 1 }

theorem copied_buffers (hb : s.Buffers n size recordPerFile p q) (r : ρ) :
    (copied r s).Buffers n size recordPerFile p q :=
  (hb.copyRecord r).of_eq rfl

theorem copied_waiting1 (hb : s.Buffers n size recordPerFile p q)
    (h : s.pBufferCurrent = some p → s.isFullBuffer1 = false) (r : ρ) :
    waiting1 (copied r s) = waiting1 s := by
  have hflag : (copied r s).isFullBuffer1 = s.isFullBuffer1 := copyRecord_isFullBuffer1 r
  cases hf : s.isFullBuffer1 with
  | false => rw [waiting1_empty hf, waiting1_empty (hflag.trans hf)]
  | true =>
    have hne : s.pBufferCurrent ≠ some p := by
      intro hp
      rw [h hp] at hf
      cases hf
    have hcells : (copied r s).heap p = s.heap p := copyRecord_heap_of_ne r hne
    rw [waiting1_full hb hf, waiting1_full (copied_buffers hb r) (hflag.trans hf), hcells]

theorem copied_waiting2 (hb : s.Buffers n size recordPerFile p q)
    (h : s.pBufferCurrent = some q → s.isFullBuffer2 = false) (r : ρ) :
    waiting2 (copied r s) = waiting2 s := by
  have hflag : (copied r s).isFullBuffer2 = s.isFullBuffer2 := copyRecord_isFullBuffer2 r
  cases hf : s.isFullBuffer2 with
  | false => rw [waiting2_empty hf, waiting2_empty (hflag.trans hf)]
  | true =>
    have hne : s.pBufferCurrent ≠ some q := by
      intro hq
      rw [h hq] at hf
      cases hf
    have hcells : (copied r s).heap q = s.heap q := copyRecord_heap_of_ne r hne
    rw [waiting2_full hb hf, waiting2_full (copied_buffers hb r) (hflag.trans hf), hcells]

theorem Queued.of_pieces {l1 l2 l3 : List ρ} (hready : t.log.isThreadReady = true)
    (hb : t.log.Buffers n size recordPerFile p q) (hcount : 0 ≤ t.log.countBufferCurrent)
    (hroom : t.log.pBufferCurrent ≠ none → t.log.countBufferCurrent < n)
    (hcurrent : (t.log.pBufferCurrent = none ∧ t.log.isFullBuffer1 = true ∧
        t.log.isFullBuffer2 = true) ∨
      (t.log.pBufferCurrent = some p ∧ t.log.isFullBuffer1 = false) ∨
      (t.log.pBufferCurrent = some q ∧ t.log.isFullBuffer2 = false))
    (h1 : waiting1 t.log = l1) (h2 : waiting2 t.log = l2)
    (h3 : (t.log.cellsAt t.log.pBufferCurrent).take t.log.countBufferCurrent.toNat = l3)
    (horder : t.log.file.logContents ++ l1 ++ l2 ++ l3 = t.accepted) :
    Queued n recordPerFile size p q t :=
  ⟨hready, hb, hcount, hroom, hcurrent, by rw [h1, h2, h3, horder]⟩

theorem Queued.not_full1 (h : Queued n recordPerFile size p q t)
    (hp : t.log.pBufferCurrent = some p) : t.log.isFullBuffer1 = false := by
  rcases h.current with ⟨hn, _, _⟩ | ⟨_, hf⟩ | ⟨hq, _⟩
  · rw [hp] at hn
    cases hn
  · exact hf
  · rw [hp] at hq
    exact absurd (Option.some.inj hq) h.buffers.distinct

theorem Queued.not_full2 (h : Queued n recordPerFile size p q t)
    (hq : t.log.pBufferCurrent = some q) : t.log.isFullBuffer2 = false := by
  rcases h.current with ⟨hn, _, _⟩ | ⟨hp, _⟩ | ⟨_, hf⟩
  · rw [hq] at hn
    cases hn
  · rw [hq] at hp
    exact absurd (Option.some.inj hp).symm h.buffers.distinct
  · exact hf

/-- The record stands behind everything accepted before. -/
theorem Queued.copied_order (h : Queued n recordPerFile size p q t) {c : Nat}
    (hc : t.log.pBufferCurrent = some c) (hcpq : c = p ∨ c = q) (r : ρ) :
    (copied r t.log).file.logContents ++ waiting1 (copied r t.log) ++ waiting2 (copied r t.log) ++
      ((copied r t.log).heap c).cells.take (copied r t.log).countBufferCurrent.toNat =
        t.accepted ++ [r] := by
  have hlen := h.buffers.length_eq hcpq
  have hlt := h.room (by rw [hc]; simp)
  have htake := copyRecord_take r hc h.count_nonneg (by omega)
  have hlog : (copied r t.log).file = t.log.file := copyRecord_file r
  have horder := h.order
  rw [hc, cellsAt_some] at horder
  rw [copied_waiting1 h.buffers h.not_full1, copied_waiting2 h.buffers h.not_full2, hlog]
  change _ ++ ((t.log.copyRecord r).heap c).cells.take (t.log.countBufferCurrent + 1).toNat = _
  rw [htake, ← List.append_assoc, horder]

/-- A full buffer is the whole of its filled part. -/
theorem copied_take (hb : s.Buffers n size recordPerFile p q) {c : Nat} (hcpq : c = p ∨ c = q)
    (hfull : s.countBufferCurrent + 1 = n) (r : ρ) :
    ((copied r s).heap c).cells.take (copied r s).countBufferCurrent.toNat =
      ((copied r s).heap c).cells := by
  have hlen := (copied_buffers hb r).length_eq hcpq
  apply List.take_of_length_le
  change _ ≤ (s.countBufferCurrent + 1).toNat
  omega

theorem write_space (hb : s.Buffers n size recordPerFile p q) (hcur : s.pBufferCurrent ≠ none)
    (hspace : s.countBufferCurrent + 1 < n) (env : Env) (r : ρ) :
    s.write env r = (0, copied r s) := by
  have hfile : s.file.pFile ≠ none := by simp [hb.opened.pFile]
  have h1 : s.countBufferCurrent < s.countBufferMax := by
    rw [hb.countBufferMax]
    omega
  have h2 : s.countBufferCurrent + 1 < s.countBufferMax := by
    rw [hb.countBufferMax]
    exact hspace
  simp [State.write, hcur, hfile, h1, h2, copied]

/-- A write that fills the current buffer takes the other one, or stores NULL. -/
theorem write_full (hb : s.Buffers n size recordPerFile p q) (hready : s.isThreadReady = true)
    (hcur : s.pBufferCurrent ≠ none) (hfull : s.countBufferCurrent + 1 = n) (env : Env) (r : ρ) :
    s.write env r =
      if s.pBufferCurrent = s.pBuffer1 then
        if s.isFullBuffer2 then
          (-1, { copied r s with isFullBuffer1 := true, pBufferCurrent := none })
        else (0, { copied r s with
          isFullBuffer1 := true
          pBufferCurrent := s.pBuffer2
          countBufferCurrent := 0 })
      else if s.isFullBuffer1 then
        (-1, { copied r s with isFullBuffer2 := true, pBufferCurrent := none })
      else (0, { copied r s with
        isFullBuffer2 := true
        pBufferCurrent := s.pBuffer1
        countBufferCurrent := 0 }) := by
  have hfile : s.file.pFile ≠ none := by simp [hb.opened.pFile]
  have h1 : s.countBufferCurrent < s.countBufferMax := by
    rw [hb.countBufferMax]
    omega
  have h2 : ¬ s.countBufferCurrent + 1 < s.countBufferMax := by
    rw [hb.countBufferMax]
    omega
  by_cases hone : s.pBufferCurrent = s.pBuffer1
  · have hcur1 : s.pBuffer1 ≠ none := hone ▸ hcur
    cases hf : s.isFullBuffer2 <;>
      simp [State.write, hcur1, hfile, h1, h2, hready, hone, hf, copied]
  · cases hf : s.isFullBuffer1 <;>
      simp [State.write, hcur, hfile, h1, h2, hready, hone, hf, copied]

namespace Queued

theorem current_some (h : Queued n recordPerFile size p q t)
    (hcur : t.log.pBufferCurrent ≠ none) :
    ∃ c, t.log.pBufferCurrent = some c ∧ (c = p ∨ c = q) := by
  rcases h.current with ⟨hn, _, _⟩ | ⟨hp, _⟩ | ⟨hq, _⟩
  · exact absurd hn hcur
  · exact ⟨p, hp, Or.inl rfl⟩
  · exact ⟨q, hq, Or.inr rfl⟩

theorem copied_ready (h : Queued n recordPerFile size p q t) (r : ρ) :
    (copied r t.log).isThreadReady = true :=
  (copyRecord_isThreadReady r).trans h.ready

/-- A write that leaves room in the current buffer. -/
theorem write_room (h : Queued n recordPerFile size p q t)
    (hcur : t.log.pBufferCurrent ≠ none) (hspace : t.log.countBufferCurrent + 1 < n) (r : ρ) :
    Queued n recordPerFile size p q ⟨copied r t.log, t.accepted ++ [r]⟩ := by
  obtain ⟨c, hc, hcpq⟩ := h.current_some hcur
  have hnonneg := h.count_nonneg
  have horder := h.copied_order hc hcpq r
  have hcc : (copied r t.log).pBufferCurrent = some c := (copyRecord_pBufferCurrent r).trans hc
  refine ⟨h.copied_ready r, copied_buffers h.buffers r, ?_, fun _ => hspace, ?_, ?_⟩
  · change 0 ≤ t.log.countBufferCurrent + 1
    omega
  · simpa [copied] using h.current
  · change _ ++ ((copied r t.log).cellsAt (copied r t.log).pBufferCurrent).take _ = _
    rw [hcc, cellsAt_some]
    exact horder

/-- A write that fills the current buffer puts the whole of it behind the waiting ones. -/
theorem filled_order (h : Queued n recordPerFile size p q t) {c : Nat}
    (hc : t.log.pBufferCurrent = some c) (hcpq : c = p ∨ c = q)
    (hfull : t.log.countBufferCurrent + 1 = n) (r : ρ) :
    (copied r t.log).file.logContents ++ waiting1 (copied r t.log) ++ waiting2 (copied r t.log) ++
      ((copied r t.log).heap c).cells = t.accepted ++ [r] := by
  have horder := h.copied_order hc hcpq r
  rw [copied_take h.buffers hcpq hfull] at horder
  exact horder

/-- Buffer 1 is full now, and buffer 2 is not, so its records come next. -/
theorem fill1 (h : Queued n recordPerFile size p q t) (hc : t.log.pBufferCurrent = some p)
    (hfull : t.log.countBufferCurrent + 1 = n) (hfull2 : t.log.isFullBuffer2 = false) (r : ρ) :
    Queued n recordPerFile size p q ⟨{ copied r t.log with
      isFullBuffer1 := true
      pBufferCurrent := t.log.pBuffer2
      countBufferCurrent := 0 }, t.accepted ++ [r]⟩ := by
  have hempty1 : (copied r t.log).isFullBuffer1 = false :=
    (copyRecord_isFullBuffer1 r).trans (h.not_full1 hc)
  have hempty2 : (copied r t.log).isFullBuffer2 = false :=
    (copyRecord_isFullBuffer2 r).trans hfull2
  have hbuf : Buffers n size recordPerFile p q { copied r t.log with
      isFullBuffer1 := true
      pBufferCurrent := t.log.pBuffer2
      countBufferCurrent := 0 } := (copied_buffers h.buffers r).of_eq rfl
  have horder := h.filled_order hc (Or.inl rfl) hfull r
  rw [waiting1_empty hempty1, waiting2_empty hempty2, List.append_nil, List.append_nil] at horder
  refine of_pieces (h.copied_ready r) hbuf (Int.le_refl 0) (fun _ => h.buffers.count_pos)
    (Or.inr (Or.inr ⟨h.buffers.buffer2, hempty2⟩)) (waiting1_full hbuf rfl)
    (waiting2_empty hempty2) List.take_zero ?_
  rw [List.append_nil, List.append_nil]
  exact horder

/-- Buffer 2 is full now, behind buffer 1, and there is no buffer left. -/
theorem fill2_null (h : Queued n recordPerFile size p q t) (hc : t.log.pBufferCurrent = some q)
    (hfull : t.log.countBufferCurrent + 1 = n) (hfull1 : t.log.isFullBuffer1 = true) (r : ρ) :
    Queued n recordPerFile size p q ⟨{ copied r t.log with
      isFullBuffer2 := true
      pBufferCurrent := none }, t.accepted ++ [r]⟩ := by
  have hnonneg := h.count_nonneg
  have hwait1 : (copied r t.log).isFullBuffer1 = true :=
    (copyRecord_isFullBuffer1 r).trans hfull1
  have hempty2 : (copied r t.log).isFullBuffer2 = false :=
    (copyRecord_isFullBuffer2 r).trans (h.not_full2 hc)
  have hcb := copied_buffers h.buffers r
  have hbuf : Buffers n size recordPerFile p q { copied r t.log with
      isFullBuffer2 := true
      pBufferCurrent := none } := hcb.of_eq rfl
  have horder := h.filled_order hc (Or.inr rfl) hfull r
  rw [waiting1_full hcb hwait1, waiting2_empty hempty2, List.append_nil] at horder
  refine of_pieces (h.copied_ready r) hbuf ?_ (fun hn => absurd rfl hn)
    (Or.inl ⟨rfl, hwait1, rfl⟩) (waiting1_full hbuf hwait1) (waiting2_full hbuf rfl)
    List.take_nil ?_
  · change 0 ≤ t.log.countBufferCurrent + 1
    omega
  · rw [List.append_nil]
    exact horder

/-- Buffer 2 is full now, and buffer 1 is not. -/
theorem fill2 (h : Queued n recordPerFile size p q t) (hc : t.log.pBufferCurrent = some q)
    (hfull : t.log.countBufferCurrent + 1 = n) (hfull1 : t.log.isFullBuffer1 = false) (r : ρ) :
    Queued n recordPerFile size p q ⟨{ copied r t.log with
      isFullBuffer2 := true
      pBufferCurrent := t.log.pBuffer1
      countBufferCurrent := 0 }, t.accepted ++ [r]⟩ := by
  have hempty1 : (copied r t.log).isFullBuffer1 = false :=
    (copyRecord_isFullBuffer1 r).trans hfull1
  have hempty2 : (copied r t.log).isFullBuffer2 = false :=
    (copyRecord_isFullBuffer2 r).trans (h.not_full2 hc)
  have hbuf : Buffers n size recordPerFile p q { copied r t.log with
      isFullBuffer2 := true
      pBufferCurrent := t.log.pBuffer1
      countBufferCurrent := 0 } := (copied_buffers h.buffers r).of_eq rfl
  have horder := h.filled_order hc (Or.inr rfl) hfull r
  rw [waiting1_empty hempty1, waiting2_empty hempty2, List.append_nil, List.append_nil] at horder
  refine of_pieces (h.copied_ready r) hbuf (Int.le_refl 0) (fun _ => h.buffers.count_pos)
    (Or.inr (Or.inl ⟨h.buffers.buffer1, hempty1⟩)) (waiting1_empty hempty1)
    (waiting2_full hbuf rfl) List.take_zero ?_
  rw [List.append_nil, List.append_nil]
  exact horder

theorem write (h : Queued n recordPerFile size p q t) {env : Env} {r : ρ}
    (hsafe : FirstFirst t (.write env r)) :
    Queued n recordPerFile size p q ⟨(t.log.write env r).2,
      if (t.log.write env r).1 = -2 then t.accepted else t.accepted ++ [r]⟩ := by
  have hb := h.buffers
  by_cases hcur : t.log.pBufferCurrent = none
  · have hw : t.log.write env r = (-2, t.log) := by simp [State.write, hcur]
    rw [hw]
    exact h
  have hlt := h.room hcur
  rcases Int.lt_or_le (t.log.countBufferCurrent + 1) n with hspace | hge
  · rw [write_space hb hcur hspace]
    exact h.write_room hcur hspace r
  have hfull : t.log.countBufferCurrent + 1 = n := by omega
  obtain ⟨c, hc, hcpq⟩ := h.current_some hcur
  rw [write_full hb h.ready hcur hfull]
  rcases hcpq with rfl | rfl
  · have hone : t.log.pBufferCurrent = t.log.pBuffer1 := hc.trans hb.buffer1.symm
    have hfull2 : t.log.isFullBuffer2 = false :=
      hsafe hone (by rw [hb.countBufferMax]; exact hfull)
    rw [if_pos hone, hfull2, if_neg (by decide)]
    exact h.fill1 hc hfull hfull2 r
  · have htwo : t.log.pBufferCurrent ≠ t.log.pBuffer1 := by
      rw [hc, hb.buffer1]
      exact fun he => hb.distinct (Option.some.inj he).symm
    rw [if_neg htwo]
    cases hfull1 : t.log.isFullBuffer1 with
    | true =>
      rw [if_pos rfl]
      exact h.fill2_null hc hfull hfull1 r
    | false =>
      rw [if_neg (by decide)]
      exact h.fill2 hc hfull hfull1 r

end Queued

section
variable {io : Stdio}

theorem flushOne_spec (hb : s.Buffers n size recordPerFile p q) (hio : io.Success)
    (hnumber : s.isFullBuffer1 = true → s.file.CanNumber n) :
    (flushOne io s).Buffers n size recordPerFile p q ∧
      (flushOne io s).file.logContents = s.file.logContents ++ waiting1 s ∧
      (flushOne io s).file.total = s.file.total + (if s.isFullBuffer1 then n else 0) ∧
      (flushOne io s).isFullBuffer1 = false := by
  cases hf : s.isFullBuffer1 with
  | false =>
    rw [flushOne, hf, if_neg (by decide), waiting1_empty hf, List.append_nil, if_neg (by decide),
      Int.add_zero]
    exact ⟨hb, rfl, rfl, hf⟩
  | true =>
    obtain ⟨hbuf, hlog, htotal⟩ :=
      hb.flush_full hio (by rw [hb.countBufferMax]; exact hnumber hf) (Or.inl rfl)
    rw [flushOne, hf, if_pos rfl, hb.buffer1, waiting1_full hb hf, if_pos rfl]
    exact ⟨hbuf.of_eq rfl, hlog, htotal, rfl⟩

theorem flushTwo_spec (hb : s.Buffers n size recordPerFile p q) (hio : io.Success)
    (hnumber : s.isFullBuffer2 = true → s.file.CanNumber n) :
    (flushTwo io s).Buffers n size recordPerFile p q ∧
      (flushTwo io s).file.logContents = s.file.logContents ++ waiting2 s ∧
      (flushTwo io s).isFullBuffer2 = false := by
  cases hf : s.isFullBuffer2 with
  | false =>
    rw [flushTwo, hf, if_neg (by decide), waiting2_empty hf, List.append_nil]
    exact ⟨hb, rfl, hf⟩
  | true =>
    obtain ⟨hbuf, hlog, -⟩ :=
      hb.flush_full hio (by rw [hb.countBufferMax]; exact hnumber hf) (Or.inr rfl)
    rw [flushTwo, hf, if_pos rfl, hb.buffer2, waiting2_full hb hf]
    exact ⟨hbuf.of_eq rfl, hlog, rfl⟩

theorem flushOne_frame (io : Stdio) (s : State ρ) :
    waiting2 (flushOne io s) = waiting2 s ∧ (flushOne io s).isFullBuffer2 = s.isFullBuffer2 ∧
      (flushOne io s).isThreadReady = s.isThreadReady ∧
      (flushOne io s).pBufferCurrent = s.pBufferCurrent ∧
      (flushOne io s).countBufferCurrent = s.countBufferCurrent ∧
      (flushOne io s).heap = s.heap := by
  unfold flushOne
  split
  · exact ⟨rfl, rfl, rfl, rfl, rfl, rfl⟩
  · exact ⟨rfl, rfl, rfl, rfl, rfl, rfl⟩

theorem flushTwo_frame (io : Stdio) (s : State ρ) :
    (flushTwo io s).isFullBuffer1 = s.isFullBuffer1 ∧
      (flushTwo io s).isThreadReady = s.isThreadReady ∧
      (flushTwo io s).pBufferCurrent = s.pBufferCurrent ∧
      (flushTwo io s).countBufferCurrent = s.countBufferCurrent ∧
      (flushTwo io s).heap = s.heap := by
  unfold flushTwo
  split
  · exact ⟨rfl, rfl, rfl, rfl, rfl⟩
  · exact ⟨rfl, rfl, rfl, rfl, rfl⟩

end

/-- After its flushes a turn leaves both flags clear, and the files hold what was waiting. -/
theorem Queued.run (h : Queued n recordPerFile size p q t) {env : Env} {io2 : Stdio}
    (hio1 : env.stdio.Success) (hio2 : io2.Success)
    (hnumber : env.tryLock = true → t.log.file.CanNumber t.log.countToFlush) :
    Queued n recordPerFile size p q { t with log := t.log.runTurn env io2 } := by
  by_cases hturn : (env.tryLock && (t.log.isFullBuffer1 || t.log.isFullBuffer2)) = true
  swap
  · rw [runTurn_eq, if_neg hturn]
    exact h
  rw [runTurn_eq, if_pos hturn]
  have hnumber := hnumber (Bool.and_eq_true_iff.mp hturn).1
  have hpos := h.buffers.count_pos
  have hmax := h.buffers.countBufferMax
  rw [countToFlush, hmax] at hnumber
  have hnumber1 : t.log.isFullBuffer1 = true → t.log.file.CanNumber n := by
    intro hf
    apply hnumber.mono
    rw [hf, if_pos rfl]
    split <;> omega
  obtain ⟨hb1, hlog1, htotal1, hfull1⟩ := flushOne_spec h.buffers hio1 hnumber1
  obtain ⟨hwait, hflag2, hready1, hcur1, hcount1, hheap1⟩ := flushOne_frame env.stdio t.log
  have hnumber2 : (flushOne env.stdio t.log).isFullBuffer2 = true →
      (flushOne env.stdio t.log).file.CanNumber n := by
    intro hf
    rw [hflag2] at hf
    rw [hf, if_pos rfl] at hnumber
    unfold LogFile.CanNumber at hnumber ⊢
    rw [h.buffers.fileMax] at hnumber
    rw [hb1.fileMax, htotal1]
    omega
  obtain ⟨hb2, hlog2, hfull2⟩ := flushTwo_spec hb1 hio2 hnumber2
  obtain ⟨hflag, hready2, hcur2, hcount2, hheap2⟩ :=
    flushTwo_frame io2 (flushOne env.stdio t.log)
  rw [hwait, hlog1] at hlog2
  have hready := hready2.trans (hready1.trans h.ready)
  have hflag1 := hflag.trans hfull1
  have hcur := hcur2.trans hcur1
  have hcount := hcount2.trans hcount1
  have horder := h.order
  by_cases hnull : t.log.pBufferCurrent = none
  · -- the re-arm gives the writer the empty buffer 1
    rw [rearm, if_pos (hcur.trans hnull)]
    rw [hnull] at horder
    refine Queued.of_pieces hready (hb2.of_eq rfl) (Int.le_refl 0)
      (fun _ => hb2.count_pos) (Or.inr (Or.inl ⟨hb2.buffer1, hflag1⟩)) (waiting1_empty hflag1)
      (waiting2_empty hfull2) List.take_zero ?_
    rw [List.append_nil, List.append_nil, List.append_nil]
    change (flushTwo io2 (flushOne env.stdio t.log)).file.logContents = t.accepted
    rw [hlog2, ← horder]
    simp [cellsAt]
  · rw [rearm, if_neg (by rw [hcur]; exact hnull)]
    have hcells : ((flushTwo io2 (flushOne env.stdio t.log)).cellsAt
        (flushTwo io2 (flushOne env.stdio t.log)).pBufferCurrent).take
        (flushTwo io2 (flushOne env.stdio t.log)).countBufferCurrent.toNat =
          (t.log.cellsAt t.log.pBufferCurrent).take t.log.countBufferCurrent.toNat := by
      rw [hcur, hcount]
      unfold cellsAt
      rw [hheap2, hheap1]
    refine Queued.of_pieces hready hb2 ?_ ?_ ?_ (waiting1_empty hflag1) (waiting2_empty hfull2)
      hcells ?_
    · rw [hcount]
      exact h.count_nonneg
    · intro _
      rw [hcount]
      exact h.room hnull
    · rcases h.current with ⟨hn, _, _⟩ | ⟨hp, _⟩ | ⟨hq, _⟩
      · exact absurd hn hnull
      · exact Or.inr (Or.inl ⟨hcur.trans hp, hflag1⟩)
      · exact Or.inr (Or.inr ⟨hcur.trans hq, hfull2⟩)
    · rw [List.append_nil, List.append_nil, hlog2]
      exact horder

end

theorem Queued.step {a : Turn ρ} {t u : Turns ρ} {n recordPerFile : Int} {size p q : Nat}
    (h : Queued n recordPerFile size p q t) (hsafe : FirstFirst t a) (hstep : t.step a = some u) :
    Queued n recordPerFile size p q u := by
  cases a with
  | write env r =>
    cases hstep
    exact h.write hsafe
  | run env io2 =>
    cases hstep
    exact h.run hsafe.1 hsafe.2.1 hsafe.2.2

/-- The content of the files is a prefix of the accepted records. -/
theorem Queued.inOrder {t : Turns ρ} {n recordPerFile : Int} {size p q : Nat}
    (h : Queued n recordPerFile size p q t) : InOrder t.log.file.logContents t.accepted := by
  apply inOrder_of_prefix
  rw [← h.order, List.append_assoc, List.append_assoc]
  exact List.prefix_append _ _

/-- A failed allocation of buffer 1: every write is turned away. -/
structure Unbuffered (t : Turns ρ) : Prop where
  current : t.log.pBufferCurrent = none
  full1 : t.log.isFullBuffer1 = false
  full2 : t.log.isFullBuffer2 = false
  contents : t.log.file.logContents = []

theorem Unbuffered.step {a : Turn ρ} {t u : Turns ρ} (h : t.Unbuffered)
    (hstep : t.step a = some u) : u.Unbuffered := by
  cases a with
  | write env r =>
    have hwrite : t.log.write env r = (-2, t.log) := by simp [State.write, h.current]
    cases hstep
    rw [hwrite]
    exact ⟨h.current, h.full1, h.full2, h.contents⟩
  | run env io2 =>
    have hturn : t.log.runTurn env io2 = t.log := by simp [State.runTurn, h.full1, h.full2]
    cases hstep
    rw [hturn]
    exact h

end Turns

section
variable [Inhabited ρ] {alloc : Alloc} {env : Env} {filename : String} {n recordPerFile : Int}
  {size : Nat} {created scheduled : Bool} {timeInMs : Int} {s₀ s₁ s₂ s₃ : State ρ}
  {as : List (Turn ρ)} {t : Turns ρ}

/-- When buffer 1 never fills up behind a full buffer 2, and the numbers of the rotated files do
not run out, the log files hold the records in the order of their writes. -/
theorem records_in_order (hcreate : s₀.createBuffer alloc n size = (0, s₁))
    (hopen : s₁.openLog env filename recordPerFile = (0, s₂))
    (hthread : s₂.runFlushInNewThread created scheduled timeInMs = (0, s₃))
    (hguard : Runs.Guarded Turns.step FirstFirst ⟨s₃, []⟩ as)
    (hrun : Runs.run Turns.step ⟨s₃, []⟩ as = some t) :
    InOrder t.log.file.logContents t.accepted := by
  by_cases hbuffer : s₁.pBuffer1 = none
  · obtain ⟨-, -, rfl⟩ := openLog_cases hopen
    obtain rfl := runFlushInNewThread_cases hthread
    have h : t.Unbuffered := Runs.run_invariant (fun _ _ _ h hs => h.step hs) hrun
      ⟨hbuffer, rfl, rfl, opened_logContents⟩
    rw [h.contents]
    exact inOrder_of_prefix List.nil_prefix
  · obtain ⟨p, q, hb⟩ := Buffers.opened_of_create hcreate hbuffer hopen hthread
    obtain ⟨-, -, rfl⟩ := openLog_cases hopen
    obtain rfl := runFlushInNewThread_cases hthread
    have hstart := Turns.Queued.of_pieces (t := ⟨_, []⟩) rfl hb (Int.le_refl 0)
      (fun _ => hb.count_pos) (Or.inr (Or.inl ⟨hb.buffer1, rfl⟩)) (Turns.waiting1_empty rfl)
      (Turns.waiting2_empty rfl) List.take_zero
      (by simp only [List.append_nil]; exact opened_logContents)
    have h := Runs.Guarded.invariant (fun _ _ _ h hsafe hs => h.step hsafe hs) hguard hrun hstart
    exact h.inOrder

end

/-- One slot: buffer 1 goes out, and buffer 2 fills up first this time. -/
def secondFirst : List (Turn Nat) :=
  [.write {} 10, .run {} {}, .write {} 11]

theorem records_in_order_second : ∃ t,
    Runs.run Turns.step ⟨started 1 1, []⟩ (secondFirst ++ [.run {} {}, .write {} 12, .run {} {}]) =
      some t ∧
    t.accepted = [10, 11, 12] ∧ t.log.file.logContents = [10, 11, 12] ∧
    InOrder t.log.file.logContents t.accepted := by
  obtain ⟨_, _, hcreate, -, hopen, hthread⟩ :=
    @started_setup 1 1 (by decide) (by decide) (by decide)
  have hrun : Runs.run Turns.step ⟨started 1 1, []⟩
      (secondFirst ++ [.run {} {}, .write {} 12, .run {} {}]) = some _ := rfl
  exact ⟨_, hrun, rfl, rfl, records_in_order hcreate hopen hthread (by decide) hrun⟩

/-- Buffer 1 fills up behind buffer 2, and the next turn writes it first. -/
theorem records_out_of_order : ∃ t,
    Runs.run Turns.step ⟨started 1 1, []⟩ (secondFirst ++ [.write {} 12, .run {} {}]) = some t ∧
    t.accepted = [10, 11, 12] ∧ t.log.file.logContents = [10, 12, 11] ∧
    ¬ InOrder t.log.file.logContents t.accepted := by
  have hrun : Runs.run Turns.step ⟨started 1 1, []⟩
      (secondFirst ++ [.write {} 12, .run {} {}]) = some _ := rfl
  refine ⟨_, hrun, rfl, rfl, ?_⟩
  rintro ⟨idx, hsorted, hmap⟩
  change [some 10, some 12, some 11] = idx.map fun i => [10, 11, 12][i]? at hmap
  match idx with
  | [] | [_] | [_, _] | _ :: _ :: _ :: _ :: _ => simp at hmap
  | [i, j, k] =>
    obtain ⟨-, hj, hk, -⟩ : some 10 = [10, 11, 12][i]? ∧ some 12 = [10, 11, 12][j]? ∧
        some 11 = [10, 11, 12][k]? ∧ True := by simpa using hmap
    have hj2 : j = 2 := by
      match j with
      | 0 | 1 | _ + 3 => simp at hj
      | 2 => rfl
    have hk1 : k = 1 := by
      match k with
      | 0 | 2 | _ + 3 => simp at hk
      | 1 => rfl
    simp [hj2, hk1] at hsorted

end HexrotPxiCom.LogTlm
