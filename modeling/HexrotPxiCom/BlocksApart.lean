import HexrotPxiCom.SharedLock

/-!
# The blocks of the circular buffers are kept apart

In a run that keeps the shared statics right, each buffer has its own block, a handle is in the
hands of one thread while it is made or freed, and at most one thread is between `hold_lock`
and `release_lock`.
-/

namespace HexrotPxiCom.CircularBuffer

set_option autoImplicit false

open BoundedFifo

variable {k : Nat}

namespace Process

variable {s t : Process k} {i : Fin k}

theorem goto_pc_self (i : Fin k) (p : Pc) (s : Process k) : (s.goto i p).pc i = p := by
  simp [goto]

theorem goto_pc_ne {i j : Fin k} (hne : j ≠ i) (p : Pc) (s : Process k) :
    (s.goto i p).pc j = s.pc j := by
  simp [goto, hne]

/-- A fact about every thread after one of them has moved. -/
theorem forall_goto {P : Fin k → Pc → Prop} {p : Pc} (hi : P i p)
    (hne : ∀ j, j ≠ i → P j (s.pc j)) (j : Fin k) : P j ((s.goto i p).pc j) := by
  by_cases hj : j = i
  · subst hj
    rw [goto_pc_self]
    exact hi
  · rw [goto_pc_ne hj]
    exact hne j hj

/-- A thread that is not where the step goes was there before it. -/
theorem pc_of_goto {p q : Pc} {j : Fin k} (hj : (s.goto i q).pc j = p) (hne : q ≠ p) :
    j ≠ i ∧ s.pc j = p := by
  by_cases hji : j = i
  · subst hji
    rw [goto_pc_self] at hj
    exact absurd hj hne
  · rw [goto_pc_ne hji] at hj
    exact ⟨hji, hj⟩

theorem storing_of_goto {q : Pc} {j : Fin k} (hj : ((s.goto i q).pc j).storing = true)
    (hq : q.storing = false) : j ≠ i ∧ (s.pc j).storing = true := by
  obtain ⟨hji, hpc⟩ := pc_of_goto (p := (s.goto i q).pc j) rfl fun heq => by
    rw [← heq, hq] at hj
    cases hj
  exact ⟨hji, hpc ▸ hj⟩

theorem update_eq_some {α : Type} {f : Nat → Option α} {n m : Nat} {x : Option α} {a : α}
    (h : Function.update f n x m = some a) : (m = n ∧ x = some a) ∨ (m ≠ n ∧ f m = some a) := by
  by_cases hm : m = n
  · subst hm
    rw [Function.update_self] at h
    exact Or.inl ⟨rfl, h⟩
  · rw [Function.update_of_ne hm] at h
    exact Or.inr ⟨hm, h⟩

/-- The static `buffer` points to the block of the thread that has assigned it. -/
def Stored (s : Process k) (n : Nat) (slots : Nat → CommandStream) : Prop :=
  ∃ b, s.buffer = some b ∧ b < s.next ∧ s.slots b = some ((List.range (n + 1)).map slots) ∧
    1 ≤ n ∧ (((n + 1) * sizeofCommandStream : Nat) : Int) < sizeTRange ∧
    ∀ h c, s.cbufs h = some c → c.buffer ≠ b

/-- The threads and the blocks are kept apart. -/
structure Apart (s : Process k) : Prop where
  running : s.exited = false
  lock : ∀ i, (s.pc i).inside = true ↔ s.lock = .locked i
  storing : ∀ i n slots, s.pc i = .initRead n slots → s.Stored n slots
  one : ∀ i j, (s.pc i).storing = true → (s.pc j).storing = true → i = j
  preparing : ∀ i h, s.pc i = .initMutex h → s.stage h = .preparing i
  freeing : ∀ i h, s.pc i = .freeBlocks h → s.stage h = .freeing i
  users : ∀ i h, (s.pc i).uses h = true → s.stage h = .live
  cbuf : ∀ h c, s.cbufs h = some c → h < s.next ∧ c.buffer < s.next ∧ s.slots c.buffer ≠ none
  apart : ∀ h h' c c', s.cbufs h = some c → s.cbufs h' = some c' → c.buffer = c'.buffer → h = h'
  here : ∀ h, s.cbufs h = none → s.stage h = .absent ∨ s.stage h = .gone
  known : ∀ h c, s.cbufs h = some c → ∃ m, s.made h = some m
  fresh : ∀ h, s.next ≤ h → s.made h = none

theorem Apart.start (k : Nat) : (Process.start k).Apart where
  running := rfl
  lock i := ⟨fun h => (by cases h), fun h => (by cases h)⟩
  storing i n slots h := by cases h
  one i j h := by cases h
  preparing i h hpc := by cases hpc
  freeing i h hpc := by cases hpc
  users i h huses := by cases huses
  cbuf h c hc := by cases hc
  apart h h' c c' hc := by cases hc
  here h _ := Or.inl rfl
  known h c hc := by cases hc
  fresh h _ := rfl

/-- A place to which the thread may go. -/
structure Fits (s : Process k) (i : Fin k) (p : Pc) : Prop where
  storing : p.storing = false
  preparing : ∀ h, p = .initMutex h → s.stage h = .preparing i
  freeing : ∀ h, p = .freeBlocks h → s.stage h = .freeing i
  users : ∀ h, p.uses h = true → s.stage h = .live

theorem Fits.idle : s.Fits i .idle :=
  ⟨rfl, fun _ heq => (by cases heq), fun _ heq => (by cases heq), fun _ hu => (by cases hu)⟩

/-- A step that moves a thread, and takes or gives back the lock. -/
theorem Apart.move {p : Pc} {l : Mutex k} (h : s.Apart) (hp : s.Fits i p)
    (hlock : ∀ j, ((s.goto i p).pc j).inside = true ↔ l = .locked j) :
    Apart { s.goto i p with lock := l } where
  running := h.running
  lock := hlock
  storing j := by
    refine forall_goto (P := fun _ q => ∀ n slots, q = .initRead n slots → s.Stored n slots) ?_
      (fun j _ => h.storing j) j
    intro n slots heq
    have hno := hp.storing
    rw [heq] at hno
    cases hno
  one := by
    have hback (j : Fin k) : ((s.goto i p).pc j).storing = true → (s.pc j).storing = true := by
      refine forall_goto (P := fun j q => q.storing = true → (s.pc j).storing = true) ?_
        (fun _ _ => id) j
      rw [hp.storing]
      exact fun hno => (by cases hno)
    exact fun j j' hj hj' => h.one j j' (hback j hj) (hback j' hj')
  preparing j := by
    exact forall_goto (P := fun j q => ∀ h, q = .initMutex h → s.stage h = .preparing j)
      hp.preparing (fun j _ => h.preparing j) j
  freeing j := by
    exact forall_goto (P := fun j q => ∀ h, q = .freeBlocks h → s.stage h = .freeing j)
      hp.freeing (fun j _ => h.freeing j) j
  users j := by
    exact forall_goto (P := fun _ q => ∀ h, q.uses h = true → s.stage h = .live) hp.users
      (fun j _ => h.users j) j
  cbuf := h.cbuf
  apart := h.apart
  here := h.here
  known := h.known
  fresh := h.fresh

/-- A thread moves, and whoever holds the lock keeps it. -/
theorem Apart.goto {p : Pc} (h : s.Apart) (hp : s.Fits i p) (hinside : p.inside = (s.pc i).inside) :
    (s.goto i p).Apart := by
  refine h.move hp fun j => ?_
  refine forall_goto (P := fun j q => q.inside = true ↔ s.lock = .locked j) ?_
    (fun j _ => h.lock j) j
  rw [hinside]
  exact h.lock i

theorem Apart.nobody_inside (h : s.Apart) (hlock : ∀ j, s.lock ≠ .locked j) (j : Fin k) :
    (s.pc j).inside = false := by
  by_contra hin
  exact hlock j ((h.lock j).mp (Bool.not_eq_false _ ▸ hin))

/-- A thread goes to a place outside, and nobody holds the lock before or afterwards. -/
theorem Apart.unheld {p : Pc} {l : Mutex k} (h : s.Apart) (hp : s.Fits i p)
    (hout : p.inside = false) (hothers : ∀ j, j ≠ i → (s.pc j).inside = false)
    (hl : ∀ j, l ≠ .locked j) : Apart { s.goto i p with lock := l } := by
  refine h.move hp fun j => ?_
  refine forall_goto (P := fun j q => q.inside = true ↔ l = .locked j) ?_ (fun j hne => ?_) j
  · rw [hout]
    exact ⟨fun hno => (by cases hno), fun heq => absurd heq (hl i)⟩
  · rw [hothers j hne]
    exact ⟨fun hno => (by cases hno), fun heq => absurd heq (hl j)⟩

theorem Apart.hold {p : Pc} (h : s.Apart) (hp : s.Fits i p) (hin : p.inside = true)
    (hlock : s.lock = .unlocked) : Apart { s.goto i p with lock := .locked i } := by
  have hnobody := h.nobody_inside (by rw [hlock]; exact fun j heq => (by cases heq))
  refine h.move hp fun j => ?_
  refine forall_goto (P := fun j q => q.inside = true ↔ Mutex.locked i = .locked j) ?_
    (fun j hne => ?_) j
  · exact ⟨fun _ => rfl, fun _ => hin⟩
  · rw [hnobody j]
    refine ⟨fun hno => (by cases hno), fun heq => ?_⟩
    cases heq
    exact absurd rfl hne

/-- The slots and the indices of a buffer change, its block stays. -/
theorem Apart.write (h : s.Apart) (cbuf : Nat) (b : CircularBuf) : (s.write cbuf b).Apart := by
  unfold Process.write
  cases hc : s.cbufs cbuf with
  | none => exact h
  | some c =>
    dsimp only
    have hback (h' : Nat) (c' : Cbuf)
        (hc' : Function.update s.cbufs cbuf (some ⟨c.buffer, b.head, b.tail, b.max⟩) h' = some c') :
        ∃ c0, s.cbufs h' = some c0 ∧ c'.buffer = c0.buffer := by
      rcases update_eq_some hc' with ⟨rfl, heq⟩ | ⟨-, hc'⟩
      · cases heq
        exact ⟨c, hc, rfl⟩
      · exact ⟨c', hc', rfl⟩
    have hslots (x : Nat) (hx : s.slots x ≠ none) :
        Function.update s.slots c.buffer (some b.buffer) x ≠ none := by
      by_cases heq : x = c.buffer
      · subst heq
        rw [Function.update_self]
        exact Option.some_ne_none _
      · rw [Function.update_of_ne heq]
        exact hx
    refine ⟨h.running, h.lock, ?_, h.one, h.preparing, h.freeing, h.users, ?_, ?_, ?_, ?_, h.fresh⟩
    · intro j n slots hpc
      obtain ⟨x, hx, hlt, hcells, hn, hfit, hfree⟩ := h.storing j n slots hpc
      refine ⟨x, hx, hlt, ?_, hn, hfit, ?_⟩
      · exact (Function.update_of_ne (hfree cbuf c hc).symm _ _).trans hcells
      · intro h' c' hc'
        obtain ⟨c0, hc0, hbuf⟩ := hback h' c' hc'
        rw [hbuf]
        exact hfree h' c0 hc0
    · intro h' c' hc'
      obtain ⟨c0, hc0, hbuf⟩ := hback h' c' hc'
      obtain ⟨hlt, hlt', hx⟩ := h.cbuf h' c0 hc0
      rw [hbuf]
      exact ⟨hlt, hlt', hslots _ hx⟩
    · intro h1 h2 c1 c2 hc1 hc2 heq
      obtain ⟨d1, hd1, hbuf1⟩ := hback h1 c1 hc1
      obtain ⟨d2, hd2, hbuf2⟩ := hback h2 c2 hc2
      rw [hbuf1, hbuf2] at heq
      exact h.apart h1 h2 d1 d2 hd1 hd2 heq
    · intro h' hnone
      dsimp only at hnone
      refine h.here h' ?_
      by_cases heq : h' = cbuf
      · subst heq
        rw [Function.update_self] at hnone
        cases hnone
      · rwa [Function.update_of_ne heq] at hnone
    · intro h' c' hc'
      obtain ⟨c0, hc0, -⟩ := hback h' c' hc'
      exact h.known h' c0 hc0

/-- `buffer = malloc(..)`, when no other thread has assigned `buffer` without reading it. -/
theorem Apart.initStore {size : Nat} {slots : Nat → CommandStream} (h : s.Apart)
    (hpc : s.pc i = .initStore size)
    (hone : 1 ≤ size → (∀ j, (s.pc j).storing = false) ∧
      (((size + 1) * sizeofCommandStream : Nat) : Int) < sizeTRange) :
    (s.initStore i size slots).Apart := by
  have hout : (s.pc i).inside = false := by rw [hpc]; rfl
  unfold Process.initStore
  split
  · exact h.goto .idle hout.symm
  · rename_i hsize
    obtain ⟨hnone, hfit⟩ := hone (by omega)
    have hplus : ((size + 1 : Nat) : Int) < sizeTRange := by
      have : size + 1 ≤ (size + 1) * sizeofCommandStream := Nat.le_mul_of_pos_right _ (by decide)
      omega
    have hslots : sizeT (sizeT (size + 1 : Nat) * sizeofCommandStream : Nat) / sizeofCommandStream =
        size + 1 := by
      rw [sizeT_natCast hplus, sizeT_natCast hfit, Nat.mul_div_cancel _ (by decide)]
    dsimp only
    rw [hslots]
    refine ⟨h.running, ?_, ?_, ?_, ?_, ?_, ?_, ?_, h.apart, h.here, h.known, ?_⟩
    · exact forall_goto (P := fun j q => q.inside = true ↔ s.lock = .locked j)
        ⟨fun hno => (by cases hno), fun hl => (by rw [(h.lock i).mpr hl] at hout; cases hout)⟩
        fun j _ => h.lock j
    · intro j n f hj
      by_cases hji : j = i
      · subst hji
        have heq := (goto_pc_self j _ s).symm.trans hj
        cases heq
        refine ⟨s.next, rfl, Nat.lt_succ_self _, Function.update_self .., by omega, hfit, ?_⟩
        intro h' c hc
        exact Nat.ne_of_lt (h.cbuf h' c hc).2.1
      · have heq := (goto_pc_ne hji _ s).symm.trans hj
        have hno := hnone j
        rw [heq] at hno
        cases hno
    · have honly (j : Fin k) (hj : ((s.goto i (.initRead size slots)).pc j).storing = true) :
          j = i := by
        by_contra hji
        rw [goto_pc_ne hji, hnone j] at hj
        cases hj
      exact fun j j' hj hj' => (honly j hj).trans (honly j' hj').symm
    · exact fun j h' hj => h.preparing j h' (pc_of_goto hj (by simp)).2
    · exact fun j h' hj => h.freeing j h' (pc_of_goto hj (by simp)).2
    · intro j h'
      exact forall_goto (P := fun _ q => q.uses h' = true → s.stage h' = .live)
        (fun hu => by cases hu) (fun j _ => h.users j h') j
    · intro h' c hc
      obtain ⟨hlt, hlt', hx⟩ := h.cbuf h' c hc
      refine ⟨Nat.lt_succ_of_lt hlt, Nat.lt_succ_of_lt hlt', ?_⟩
      change Function.update s.slots s.next _ c.buffer ≠ none
      rw [Function.update_of_ne (Nat.ne_of_lt hlt')]
      exact hx
    · exact fun h' hle => h.fresh h' (Nat.le_of_succ_le hle)

theorem Apart.cbufs_next (h : s.Apart) : s.cbufs s.next = none := by
  by_contra hsome
  obtain ⟨c, hc⟩ := Option.ne_none_iff_exists'.mp hsome
  exact Nat.lt_irrefl _ (h.cbuf _ c hc).1

theorem Apart.cbufs_ne_none (h : s.Apart) {c : Nat} {x : Stage k} (hx : s.stage c = x)
    (habsent : x ≠ .absent) (hgone : x ≠ .gone) : s.cbufs c ≠ none := by
  intro hnone
  rcases h.here c hnone with heq | heq
  · exact habsent (hx.symm.trans heq)
  · exact hgone (hx.symm.trans heq)

theorem Apart.stage_next (h : s.Apart) {c : Nat} {x : Stage k} (hx : s.stage c = x)
    (habsent : x ≠ .absent) (hgone : x ≠ .gone) : c ≠ s.next := by
  rintro rfl
  exact h.cbufs_ne_none hx habsent hgone h.cbufs_next

/-- `cbuf->buffer = buffer` reads what this thread has assigned. -/
theorem Apart.initRead {n : Nat} {slots : Nat → CommandStream} (h : s.Apart)
    (hpc : s.pc i = .initRead n slots) : (s.initRead i n slots).Apart := by
  have hout : (s.pc i).inside = false := by rw [hpc]; rfl
  have hstoring : (s.pc i).storing = true := by rw [hpc]; rfl
  obtain ⟨b, hb, hlt, hcells, hn, hfit, hfree⟩ := h.storing i n slots hpc
  have hstage (c : Nat) (x : Stage k) (hx : s.stage c = x) (habsent : x ≠ .absent)
      (hgone : x ≠ .gone) : Function.update s.stage s.next (.preparing i) c = x :=
    (Function.update_of_ne (h.stage_next hx habsent hgone) _ _).trans hx
  unfold Process.initRead
  rw [hb]
  dsimp only
  refine ⟨h.running, ?_, ?_, ?_, ?_, ?_, ?_, ?_, ?_, ?_, ?_, ?_⟩
  · exact forall_goto (P := fun j q => q.inside = true ↔ s.lock = .locked j)
      ⟨fun hno => (by cases hno), fun hl => (by rw [(h.lock i).mpr hl] at hout; cases hout)⟩
      fun j _ => h.lock j
  · intro j m f hj
    obtain ⟨hji, hsj⟩ := pc_of_goto hj (by simp)
    exact absurd (h.one j i (by rw [hsj]; rfl) hstoring) hji
  · exact fun j j' hj hj' => h.one j j' (storing_of_goto hj rfl).2 (storing_of_goto hj' rfl).2
  · intro j
    refine forall_goto (P := fun j q => ∀ c, q = .initMutex c →
      Function.update s.stage s.next (.preparing i) c = .preparing j) ?_ (fun j _ => ?_) j
    · intro c heq
      cases heq
      exact Function.update_self ..
    · exact fun c hc => hstage c _ (h.preparing j c hc) (by simp) (by simp)
  · intro j
    refine forall_goto (P := fun j q => ∀ c, q = .freeBlocks c →
      Function.update s.stage s.next (.preparing i) c = .freeing j) ?_ (fun j _ => ?_) j
    · exact fun c heq => by cases heq
    · exact fun c hc => hstage c _ (h.freeing j c hc) (by simp) (by simp)
  · intro j
    refine forall_goto (P := fun _ q => ∀ c, q.uses c = true →
      Function.update s.stage s.next (.preparing i) c = .live) ?_ (fun j _ => ?_) j
    · exact fun c hu => by cases hu
    · exact fun c hu => hstage c _ (h.users j c hu) (by simp) (by simp)
  · intro c d hd
    rcases update_eq_some hd with ⟨rfl, hnew⟩ | ⟨-, hd⟩
    · cases hnew
      refine ⟨Nat.lt_succ_self _, Nat.lt_succ_of_lt hlt, ?_⟩
      change s.slots b ≠ none
      rw [hcells]
      exact Option.some_ne_none _
    · obtain ⟨hlt1, hlt2, hx⟩ := h.cbuf c d hd
      exact ⟨Nat.lt_succ_of_lt hlt1, Nat.lt_succ_of_lt hlt2, hx⟩
  · intro c c' d d' hd hd' heq
    rcases update_eq_some hd with ⟨rfl, hnew⟩ | ⟨-, hd⟩
    · cases hnew
      rcases update_eq_some hd' with ⟨hc', -⟩ | ⟨-, hd'⟩
      · exact hc'.symm
      · exact absurd heq.symm (hfree c' d' hd')
    · rcases update_eq_some hd' with ⟨rfl, hnew⟩ | ⟨-, hd'⟩
      · cases hnew
        exact absurd heq (hfree c d hd)
      · exact h.apart c c' d d' hd hd' heq
  · intro c hnone
    dsimp only at hnone ⊢
    by_cases hc : c = s.next
    · subst hc
      rw [Function.update_self] at hnone
      cases hnone
    · rw [Function.update_of_ne hc] at hnone ⊢
      exact h.here c hnone
  · intro c d hd
    dsimp only
    rcases update_eq_some hd with ⟨rfl, -⟩ | ⟨hc, hd⟩
    · exact ⟨_, Function.update_self ..⟩
    · rw [Function.update_of_ne hc]
      exact h.known c d hd
  · intro c hle
    dsimp only at hle ⊢
    rw [Function.update_of_ne (Nat.ne_of_gt hle)]
    exact h.fresh c (Nat.le_of_succ_le hle)

/-- The callers know more of a handle, and no thread is somewhere else with it. -/
theorem Apart.setStage {c : Nat} {x : Stage k} (h : s.Apart) (hprep : ∀ j, s.pc j ≠ .initMutex c)
    (hfree : ∀ j, s.pc j ≠ .freeBlocks c) (huse : ∀ j, (s.pc j).uses c = true → x = .live)
    (hhere : s.cbufs c ≠ none) : Apart { s with stage := Function.update s.stage c x } := by
  refine ⟨h.running, h.lock, h.storing, h.one, ?_, ?_, ?_, h.cbuf, h.apart, ?_, h.known, h.fresh⟩
  · intro j c' hj
    have hne : c' ≠ c := fun heq => hprep j (heq ▸ hj)
    exact (Function.update_of_ne hne _ _).trans (h.preparing j c' hj)
  · intro j c' hj
    have hne : c' ≠ c := fun heq => hfree j (heq ▸ hj)
    exact (Function.update_of_ne hne _ _).trans (h.freeing j c' hj)
  · intro j c' hu
    by_cases hc : c' = c
    · subst hc
      exact (Function.update_self ..).trans (huse j hu)
    · exact (Function.update_of_ne hc _ _).trans (h.users j c' hu)
  · intro c' hnone
    have hne : c' ≠ c := fun heq => hhere (heq ▸ hnone)
    have hstage := h.here c' hnone
    rw [← Function.update_of_ne hne x s.stage] at hstage
    exact hstage

/-- `circular_buf_init` returns its handle. -/
theorem Apart.initMutex {c : Nat} (h : s.Apart) (hpc : s.pc i = .initMutex c)
    (hlock : ∀ j, s.lock ≠ .locked j) : Apart { s.goto i .idle with
      lock := .unlocked
      stage := Function.update s.stage c .live } := by
  have hstage := h.preparing i c hpc
  have hmoved : Apart { s.goto i .idle with lock := .unlocked } :=
    h.unheld .idle rfl (fun j _ => h.nobody_inside hlock j) (fun j heq => (by cases heq))
  refine hmoved.setStage ?_ ?_ (fun _ _ => rfl) ?_
  · intro j hj
    obtain ⟨hji, hsj⟩ := pc_of_goto hj (by simp)
    have heq := (h.preparing j c hsj).symm.trans hstage
    cases heq
    exact hji rfl
  · intro j hj
    obtain ⟨-, hsj⟩ := pc_of_goto hj (by simp)
    cases (h.freeing j c hsj).symm.trans hstage
  · exact h.cbufs_ne_none hstage (by simp) (by simp)

/-- `circular_buf_free` is called for a handle that nobody uses. -/
theorem Apart.free {c : Nat} (h : s.Apart) (hout : (s.pc i).inside = false)
    (hlive : s.stage c = .live) (hunused : ∀ j, (s.pc j).uses c = false) :
    Apart { s.goto i (.freeBlocks c) with
      stage := Function.update s.stage c (.freeing i) } := by
  have hset : Apart { s with stage := Function.update s.stage c (.freeing i) } := by
    refine h.setStage ?_ ?_ ?_ ?_
    · exact fun j hj => by cases (h.preparing j c hj).symm.trans hlive
    · exact fun j hj => by cases (h.freeing j c hj).symm.trans hlive
    · intro j hu
      rw [hunused j] at hu
      cases hu
    · exact h.cbufs_ne_none hlive (by simp) (by simp)
  refine hset.goto ⟨rfl, fun _ heq => (by cases heq), ?_, fun _ hu => (by cases hu)⟩ hout.symm
  intro c' heq
  cases heq
  exact Function.update_self ..

theorem Apart.freeBlocks {c : Nat} {d : Cbuf} (h : s.Apart) (hpc : s.pc i = .freeBlocks c)
    (hd : s.cbufs c = some d) : Apart { s.goto i .destroy with
      slots := Function.update s.slots d.buffer none
      cbufs := Function.update s.cbufs c none
      stage := Function.update s.stage c .gone } := by
  have hstage := h.freeing i c hpc
  have hout : (s.pc i).inside = false := by rw [hpc]; rfl
  have hmoved : (s.goto i .destroy).Apart :=
    h.goto ⟨rfl, fun _ heq => (by cases heq), fun _ heq => (by cases heq),
      fun _ hu => (by cases hu)⟩ hout.symm
  have hset : Apart { s.goto i .destroy with stage := Function.update s.stage c .gone } := by
    refine hmoved.setStage ?_ ?_ ?_ ?_
    · exact fun j hj => by cases (hmoved.preparing j c hj).symm.trans hstage
    · intro j hj
      obtain ⟨hji, -⟩ := pc_of_goto hj (by simp)
      cases (hmoved.freeing j c hj).symm.trans hstage
      exact hji rfl
    · exact fun j hu => by cases (hmoved.users j c hu).symm.trans hstage
    · change s.cbufs c ≠ none
      rw [hd]
      exact Option.some_ne_none _
  have hback (c' : Nat) (d' : Cbuf) (hd' : Function.update s.cbufs c none c' = some d') :
      c' ≠ c ∧ s.cbufs c' = some d' := by
    rcases update_eq_some hd' with ⟨-, heq⟩ | hold
    · cases heq
    · exact hold
  refine ⟨hset.running, hset.lock, ?_, hset.one, hset.preparing, hset.freeing, hset.users, ?_, ?_,
    ?_, ?_, hset.fresh⟩
  · intro j n f hj
    obtain ⟨b, hb, hlt, hcells, hn, hfit, hother⟩ := hset.storing j n f hj
    refine ⟨b, hb, hlt, ?_, hn, hfit, fun c' d' hd' => hother c' d' (hback c' d' hd').2⟩
    exact (Function.update_of_ne (hother c d hd).symm _ _).trans hcells
  · intro c' d' hd'
    obtain ⟨hne, hd'⟩ := hback c' d' hd'
    obtain ⟨hlt, hlt', hx⟩ := h.cbuf c' d' hd'
    refine ⟨hlt, hlt', ?_⟩
    have hbuf : d'.buffer ≠ d.buffer := fun heq => hne (h.apart c' c d' d hd' hd heq)
    change Function.update s.slots d.buffer none d'.buffer ≠ none
    rw [Function.update_of_ne hbuf]
    exact hx
  · exact fun c1 c2 d1 d2 hd1 hd2 heq =>
      h.apart c1 c2 d1 d2 (hback c1 d1 hd1).2 (hback c2 d2 hd2).2 heq
  · intro c' hnone
    by_cases hc : c' = c
    · subst hc
      exact Or.inr (Function.update_self ..)
    · exact hset.here c' ((Function.update_of_ne hc none s.cbufs).symm.trans hnone)
  · exact fun c' d' hd' => h.known c' d' (hback c' d' hd').2

end Process

end HexrotPxiCom.CircularBuffer
