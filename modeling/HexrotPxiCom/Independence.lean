import HexrotPxiCom.BlocksApart
import HexrotPxiCom.Lib.Runs

/-!
# Buffers behind one lock do not disturb each other

The calls on a buffer return what they return for that buffer alone, as long as the blocks are
kept apart and the threads inside exclude each other.
-/

namespace HexrotPxiCom.CircularBuffer

set_option autoImplicit false

open BoundedFifo

variable {k : Nat}

namespace Process

variable {s t : Process k} {i : Fin k}

theorem view_eq {c : Nat} {d : Cbuf} {slots : List CommandStream} (hd : s.cbufs c = some d)
    (hslots : s.slots d.buffer = some slots) :
    s.view c = some ⟨slots, d.head, d.tail, d.max⟩ := by
  rw [view, hd, Option.bind_some, hslots, Option.map_some]

theorem view_cases {c : Nat} {b : CircularBuf} (h : s.view c = some b) :
    ∃ d, s.cbufs c = some d ∧ s.slots d.buffer = some b.buffer ∧
      b = ⟨b.buffer, d.head, d.tail, d.max⟩ := by
  obtain ⟨d, hd, hmap⟩ := Option.bind_eq_some_iff.mp h
  obtain ⟨slots, hslots, rfl⟩ := Option.map_eq_some_iff.mp hmap
  exact ⟨d, hd, hslots, rfl⟩

theorem write_view_self {c : Nat} {b b' : CircularBuf} (h : s.view c = some b) :
    (s.write c b').view c = some b' := by
  obtain ⟨d, hd, -, -⟩ := view_cases h
  have hwrite : s.write c b' = { s with
      slots := Function.update s.slots d.buffer (some b'.buffer)
      cbufs := Function.update s.cbufs c (some ⟨d.buffer, b'.head, b'.tail, b'.max⟩) } := by
    rw [Process.write, hd]
  have hd' : (s.write c b').cbufs c = some ⟨d.buffer, b'.head, b'.tail, b'.max⟩ := by
    rw [hwrite]
    exact Function.update_self ..
  have hslots' : (s.write c b').slots d.buffer = some b'.buffer := by
    rw [hwrite]
    exact Function.update_self ..
  exact view_eq hd' hslots'

theorem write_frame (s : Process k) (c : Nat) (b : CircularBuf) :
    (s.write c b).pc = s.pc ∧ (s.write c b).made = s.made ∧
      (s.write c b).history = s.history := by
  unfold Process.write
  cases s.cbufs c
  · exact ⟨rfl, rfl, rfl⟩
  · exact ⟨rfl, rfl, rfl⟩

theorem write_stage (s : Process k) (c : Nat) (b : CircularBuf) :
    (s.write c b).stage = s.stage := by
  unfold Process.write
  cases s.cbufs c
  · rfl
  · rfl

theorem Apart.write_view_ne {c c' : Nat} {b : CircularBuf} (h : s.Apart) (hne : c' ≠ c) :
    (s.write c b).view c' = s.view c' := by
  unfold Process.write
  cases hd : s.cbufs c with
  | none => rfl
  | some d =>
    unfold Process.view
    dsimp only
    rw [Function.update_of_ne hne]
    cases hd' : s.cbufs c' with
    | none => rfl
    | some d' =>
      have hbuf : d'.buffer ≠ d.buffer := fun heq => hne (h.apart c' c d' d hd' hd heq)
      rw [Option.bind_some, Option.bind_some, Function.update_of_ne hbuf]

/-- `b` is the buffer after the calls that are done, `cur` what is in memory while a thread is
inside. -/
structure Midway (s : Process k) (c : Nat) (b cur : CircularBuf) : Prop where
  put : ∀ j data lostData, s.pc j = .advance c data lostData →
    cur = { b with buffer := b.buffer.set b.head data } ∧ lostData = circularBufFull b ∧
      b.head < b.buffer.length
  get : ∀ j data found, s.pc j = .retreat c data found →
    circularBufEmpty b = false ∧ b.buffer[b.tail]? = some found
  rest : (∀ j data lostData, s.pc j ≠ .advance c data lostData) → cur = b

/-- The calls on a buffer returned what they return for the buffer alone, which now holds
`b`. -/
def Alone (size : Nat) (slots : Nat → CommandStream)
    (history : List ((Nat × Op CommandStream) × Result CommandStream)) (b : CircularBuf) : Prop :=
  ∃ b0, circularBufInit ⟨some slots, true⟩ size = some b0 ∧
    calls b0 (history.map Prod.fst) = some (history.map Prod.snd, b)

structure Tracked (s : Process k) : Prop where
  alone : ∀ c size slots, s.made c = some (size, slots) →
    ∃ b, Alone size slots (s.history c) b ∧
      ∀ cur, s.view c = some cur → 1 ≤ size ∧ (∃ q, Stores size b q) ∧ s.Midway c b cur
  blank : ∀ c, s.made c = none → s.history c = []

end Process

/-- In the middle of a put or get of the buffer. -/
def Pc.midway (cbuf : Nat) : Pc → Bool
  | .advance c .. | .retreat c .. => c == cbuf
  | _ => false

namespace Process

variable {s t : Process k} {i : Fin k} {p : Pc} {c : Nat}

theorem Tracked.start (k : Nat) : (Process.start k).Tracked :=
  ⟨fun _ _ _ h => (by cases h), fun _ _ => rfl⟩

theorem Midway.of_none {b : CircularBuf} (h : ∀ j, (s.pc j).midway c = false) :
    s.Midway c b b := by
  refine ⟨fun j data lostData hj => ?_, fun j data found hj => ?_, fun _ => rfl⟩
  · have hno := h j
    rw [hj] at hno
    simp [Pc.midway] at hno
  · have hno := h j
    rw [hj] at hno
    simp [Pc.midway] at hno

/-- A step that neither begins nor ends the middle of a call. -/
theorem Midway.goto {b cur : CircularBuf} (h : s.Midway c b cur) (hpc : t.pc = (s.goto i p).pc)
    (hold : (s.pc i).midway c = false) (hnew : p.midway c = false) : t.Midway c b cur := by
  have hback (j : Fin k) (q : Pc) (hq : q.midway c = true) : t.pc j = q ↔ s.pc j = q := by
    rw [hpc]
    by_cases hj : j = i
    · subst hj
      rw [goto_pc_self]
      constructor
      · rintro rfl
        rw [hnew] at hq
        cases hq
      · rintro rfl
        rw [hold] at hq
        cases hq
    · rw [goto_pc_ne hj]
  refine ⟨fun j data lostData hj => ?_, fun j data found hj => ?_, fun hno => ?_⟩
  · exact h.put j data lostData ((hback j _ (by simp [Pc.midway])).mp hj)
  · exact h.get j data found ((hback j _ (by simp [Pc.midway])).mp hj)
  · exact h.rest fun j data lostData hj =>
      hno j data lostData ((hback j _ (by simp [Pc.midway])).mpr hj)

/-- A step that only moves a thread, outside of the middle of a call, and may hide buffers. -/
theorem Tracked.goto (h : s.Tracked) (hmade : t.made = s.made) (hhistory : t.history = s.history)
    (hview : ∀ c cur, t.view c = some cur → s.view c = some cur)
    (hpc : t.pc = (s.goto i p).pc) (hold : ∀ c, (s.pc i).midway c = false)
    (hnew : ∀ c, p.midway c = false) : t.Tracked := by
  refine ⟨fun c size slots hc => ?_, fun c hc => ?_⟩
  · rw [hmade] at hc
    obtain ⟨b, halone, hcur⟩ := h.alone c size slots hc
    refine ⟨b, hhistory ▸ halone, fun cur hv => ?_⟩
    obtain ⟨hsize, hq, hmid⟩ := hcur cur (hview c cur hv)
    exact ⟨hsize, hq, hmid.goto hpc (hold c) (hnew c)⟩
  · rw [hmade] at hc
    rw [hhistory]
    exact h.blank c hc

/-- Only the thread that holds the lock is in the middle of a call. -/
theorem Apart.not_midway (h : s.Apart) (hin : (s.pc i).inside = true) {j : Fin k} (hj : j ≠ i)
    (c : Nat) : (s.pc j).midway c = false := by
  by_contra hmid
  have hinside : (s.pc j).inside = true := by
    revert hmid
    cases s.pc j <;> simp [Pc.midway, Pc.inside]
  have heq := ((h.lock j).mp hinside).symm.trans ((h.lock i).mp hin)
  cases heq
  exact hj rfl

/-- Memory holds the buffer itself unless the thread inside is about to move `head`. -/
theorem Midway.at_rest {b cur : CircularBuf} (hmid : s.Midway c b cur) (hs : s.Apart)
    (hin : (s.pc i).inside = true) (hi : ∀ data lostData, s.pc i ≠ .advance c data lostData) :
    cur = b := by
  refine hmid.rest fun j data lostData hj => ?_
  by_cases hji : j = i
  · subst hji
    exact hi data lostData hj
  · have hno := hs.not_midway hin hji c
    rw [hj] at hno
    simp [Pc.midway] at hno

/-- A call is done: the thread leaves `b'` in memory, and the result is that of the call on the
buffer alone. -/
theorem Tracked.done {op : Op CommandStream} {r : Result CommandStream} {u : Process k}
    {cur b' : CircularBuf} (h : s.Tracked) (hs : s.Apart) (hin : (s.pc i).inside = true)
    (hpc : u.pc = s.pc) (hmade : u.made = s.made) (hhistory : u.history = s.history)
    (hcur : s.view c = some cur) (hview : u.view c = some b')
    (hother : ∀ c', c' ≠ c → u.view c' = s.view c')
    (hmid : ∀ c', c' ≠ c → (s.pc i).midway c' = false)
    (hcall : ∀ b size q, Stores size b q → s.Midway c b cur → call b (i.val, op) = some (r, b')) :
    (u.done i c op r).Tracked := by
  have hpc' : (u.done i c op r).pc = (s.goto i .release).pc := by
    unfold Process.done Process.goto
    dsimp only
    rw [hpc]
  refine ⟨fun c' size slots hc => ?_, fun c' hc => ?_⟩
  · change u.made c' = _ at hc
    rw [hmade] at hc
    obtain ⟨b, halone, hb⟩ := h.alone c' size slots hc
    by_cases hc' : c' = c
    · subst hc'
      obtain ⟨hsize, ⟨q, hq⟩, hmidway⟩ := hb cur hcur
      obtain ⟨b0, hinit, hcalls⟩ := halone
      have hstep := hcall b size q hq hmidway
      obtain ⟨b1, hb1, hstores⟩ := hq.call_eq hsize i.val op
      have heq : b' = b1 := congrArg Prod.snd (Option.some.inj (hstep.symm.trans hb1))
      rw [← heq] at hstores
      refine ⟨b', ⟨b0, hinit, ?_⟩, fun cur' hcur' => ?_⟩
      · have hnew : (u.done i c' op r).history c' = s.history c' ++ [((i.val, op), r)] := by
          unfold Process.done
          dsimp only
          rw [Function.update_self, hhistory]
        rw [hnew, List.map_append, List.map_append, calls_append hcalls]
        simp only [List.map_cons, List.map_nil, calls, hstep, Option.bind_some, Option.map_some]
      · cases hcur'.symm.trans hview
        refine ⟨hsize, ⟨_, hstores⟩, Midway.of_none fun j => ?_⟩
        rw [hpc']
        exact forall_goto (P := fun _ q => q.midway c' = false) rfl
          (fun j hj => hs.not_midway hin hj c') j
    · refine ⟨b, ?_, fun cur' hcur' => ?_⟩
      · have hsame : (u.done i c op r).history c' = s.history c' := by
          unfold Process.done
          dsimp only
          rw [Function.update_of_ne hc', hhistory]
        rw [hsame]
        exact halone
      · obtain ⟨hsize, hq, hmidway⟩ := hb cur' ((hother c' hc').symm.trans hcur')
        exact ⟨hsize, hq, hmidway.goto hpc' (hmid c' hc') rfl⟩
  · change u.made c' = _ at hc
    rw [hmade] at hc
    have hne : c' ≠ c := by
      rintro rfl
      obtain ⟨d, hd, -⟩ := view_cases hcur
      obtain ⟨m, hm⟩ := hs.known c' d hd
      cases hm.symm.trans hc
    unfold Process.done
    dsimp only
    rw [Function.update_of_ne hne, hhistory]
    exact h.blank c' hc

/-- A thread comes to the middle of a call, and leaves `cur'` in memory. -/
theorem Tracked.begin {u : Process k} {cur cur' : CircularBuf} (h : s.Tracked) (hs : s.Apart)
    (hin : (s.pc i).inside = true) (hbody : ∀ c', (s.pc i).midway c' = false)
    (hpc : u.pc = s.pc) (hmade : u.made = s.made) (hhistory : u.history = s.history)
    (hcur : s.view c = some cur) (hview : u.view c = some cur')
    (hother : ∀ c', c' ≠ c → u.view c' = s.view c')
    (hp : ∀ c', c' ≠ c → p.midway c' = false) (hmid : (u.goto i p).Midway c cur cur') :
    (u.goto i p).Tracked := by
  have hpc' : (u.goto i p).pc = (s.goto i p).pc := by
    unfold Process.goto
    dsimp only
    rw [hpc]
  refine ⟨fun c' size slots hc => ?_, fun c' hc => ?_⟩
  · change u.made c' = _ at hc
    rw [hmade] at hc
    obtain ⟨b, halone, hb⟩ := h.alone c' size slots hc
    refine ⟨b, ?_, fun x hx => ?_⟩
    · change Alone size slots (u.history c') b
      rw [hhistory]
      exact halone
    · change u.view c' = some x at hx
      by_cases hc' : c' = c
      · subst hc'
        obtain ⟨hsize, hq, hmidway⟩ := hb cur hcur
        have hrest : cur = b := by
          refine hmidway.at_rest hs hin fun data lostData hj => ?_
          have hno := hbody c'
          rw [hj] at hno
          simp [Pc.midway] at hno
        cases hx.symm.trans hview
        rw [← hrest] at hq ⊢
        exact ⟨hsize, hq, hmid⟩
      · obtain ⟨hsize, hq, hmidway⟩ := hb x ((hother c' hc').symm.trans hx)
        exact ⟨hsize, hq, hmidway.goto hpc' (hbody c') (hp c' hc')⟩
  · change u.made c' = _ at hc
    change u.history c' = _
    rw [hmade] at hc
    rw [hhistory]
    exact h.blank c' hc

/-- Whoever is in the middle of a call is the thread that has come there. -/
theorem Apart.midway_goto {u : Process k} {q : Pc} (hs : s.Apart) (hin : (s.pc i).inside = true)
    (hpc : u.pc = s.pc) {j : Fin k} (hj : (u.goto i p).pc j = q) (hq : q.midway c = true) :
    p = q := by
  by_cases hji : j = i
  · subst hji
    rw [goto_pc_self] at hj
    exact hj
  · rw [goto_pc_ne hji, hpc] at hj
    have hno := hs.not_midway hin hji c
    rw [hj, hq] at hno
    cases hno

/-- The body of a put stores the command; the index moves in the next step. -/
theorem Tracked.putStore {data : CommandStream} {cur : CircularBuf} (h : s.Tracked) (hs : s.Apart)
    (hpc : s.pc i = .body c (.put data)) (hcur : s.view c = some cur)
    (hroom : cur.head < cur.buffer.length) :
    ((s.write c { cur with buffer := cur.buffer.set cur.head data }).goto i
      (.advance c data (circularBufFull cur))).Tracked := by
  have hin : (s.pc i).inside = true := by rw [hpc]; rfl
  obtain ⟨hupc, hmade, hhistory⟩ :=
    write_frame s c { cur with buffer := cur.buffer.set cur.head data }
  refine h.begin hs hin (fun c' => by rw [hpc]; rfl) hupc hmade hhistory hcur
    (write_view_self hcur) (fun c' hc' => hs.write_view_ne hc') ?_ ?_
  · intro c' hc'
    simp [Pc.midway, Ne.symm hc']
  · refine ⟨fun j data' lostData hj => ?_, fun j data' found hj => ?_, fun hno => ?_⟩
    · have heq := hs.midway_goto (c := c) hin hupc hj (by simp [Pc.midway])
      cases heq
      exact ⟨rfl, rfl, hroom⟩
    · have heq := hs.midway_goto (c := c) hin hupc hj (by simp [Pc.midway])
      cases heq
    · exact absurd (goto_pc_self i _ _) (hno i data _)

/-- The body of a get finds the oldest command; the index moves in the next step. -/
theorem Tracked.getFind {data found : CommandStream} {cur : CircularBuf} (h : s.Tracked)
    (hs : s.Apart) (hpc : s.pc i = .body c (.get data)) (hcur : s.view c = some cur)
    (hne : circularBufEmpty cur = false) (hfound : cur.buffer[cur.tail]? = some found) :
    (s.goto i (.retreat c data found)).Tracked := by
  have hin : (s.pc i).inside = true := by rw [hpc]; rfl
  refine h.begin hs hin (fun c' => by rw [hpc]; rfl) rfl rfl rfl hcur hcur (fun _ _ => rfl) ?_ ?_
  · intro c' hc'
    simp [Pc.midway, Ne.symm hc']
  · refine ⟨fun j data' lostData hj => ?_, fun j data' found' hj => ?_, fun _ => rfl⟩
    · have heq := hs.midway_goto (c := c) hin rfl hj (by simp [Pc.midway])
      cases heq
    · have heq := hs.midway_goto (c := c) hin rfl hj (by simp [Pc.midway])
      cases heq
      exact ⟨hne, hfound⟩

/-- A new handle holds the buffer that `circular_buf_init` makes. -/
theorem Tracked.initRead {size : Nat} {slots : Nat → CommandStream} (h : s.Tracked) (hs : s.Apart)
    (hpc : s.pc i = .initRead size slots) : (s.initRead i size slots).Tracked := by
  obtain ⟨b, hb, -, hcells, hn, hfit, -⟩ := hs.storing i size slots hpc
  have hplus : ((size + 1 : Nat) : Int) < sizeTRange := by
    have : size + 1 ≤ (size + 1) * sizeofCommandStream := Nat.le_mul_of_pos_right _ (by decide)
    omega
  have hinit : circularBufInit ⟨some slots, true⟩ size =
      some ⟨(List.range (size + 1)).map slots, 0, 0, size + 1⟩ := by
    unfold circularBufInit
    dsimp only
    rw [if_neg (by omega), sizeT_natCast hplus, sizeT_natCast hfit,
      Nat.mul_div_cancel _ (by decide)]
    rfl
  have hold (c' : Nat) : (s.pc i).midway c' = false := by rw [hpc]; rfl
  unfold Process.initRead
  rw [hb, sizeT_natCast hplus]
  dsimp only
  refine ⟨fun c' size' slots' hc => ?_, fun c' hc => ?_⟩
  · dsimp only at hc ⊢
    by_cases hc' : c' = s.next
    · subst hc'
      rw [Function.update_self] at hc
      cases hc
      have hblank : s.history s.next = [] := h.blank _ (hs.fresh _ (Nat.le_refl _))
      refine ⟨⟨(List.range (size + 1)).map slots, 0, 0, size + 1⟩, ⟨_, hinit, ?_⟩,
        fun cur hcur => ?_⟩
      · change calls _ ((s.history s.next).map Prod.fst) = some ((s.history s.next).map Prod.snd, _)
        rw [hblank]
        rfl
      · have hview := view_eq (c := s.next) (s := { s.goto i (.initMutex s.next) with
            cbufs := Function.update s.cbufs s.next (some ⟨b, 0, 0, size + 1⟩)
            next := s.next + 1
            stage := Function.update s.stage s.next (.preparing i)
            made := Function.update s.made s.next (some (size, slots)) })
          (Function.update_self ..) hcells
        cases hcur.symm.trans hview
        refine ⟨hn, ⟨[], stores_init hplus hinit hfit⟩, Midway.of_none fun j => ?_⟩
        refine forall_goto (P := fun _ q => q.midway s.next = false) rfl (fun j _ => ?_) j
        by_contra hmid
        have huses : (s.pc j).uses s.next = true := by
          revert hmid
          cases s.pc j <;> simp [Pc.midway, Pc.uses]
        exact hs.stage_next (hs.users j _ huses) (by simp) (by simp) rfl
    · rw [Function.update_of_ne hc'] at hc
      obtain ⟨b', halone, hcur⟩ := h.alone c' size' slots' hc
      refine ⟨b', halone, fun cur hv => ?_⟩
      have hsame : s.view c' = some cur := by
        rw [← hv]
        unfold Process.view
        dsimp only
        rw [Function.update_of_ne hc']
        rfl
      obtain ⟨hsize, hq, hmid⟩ := hcur cur hsame
      exact ⟨hsize, hq, hmid.goto rfl (hold c') rfl⟩
  · dsimp only at hc ⊢
    by_cases hc' : c' = s.next
    · subst hc'
      rw [Function.update_self] at hc
      cases hc
    · rw [Function.update_of_ne hc'] at hc
      exact h.blank c' hc

/-- The blocks are apart and the results are those of each buffer alone. -/
structure Sound (s : Process k) : Prop where
  apart : s.Apart
  tracked : s.Tracked

theorem Sound.start (k : Nat) : (Process.start k).Sound := ⟨.start k, .start k⟩

theorem isIdle_iff {q : Pc} : q.isIdle = true ↔ q = .idle := by
  cases q <;> simp [Pc.isIdle]

theorem Fits.outside (hstoring : p.storing = false) (hprep : ∀ c, p ≠ .initMutex c)
    (hfree : ∀ c, p ≠ .freeBlocks c) (huses : ∀ c, p.uses c = false) : s.Fits i p :=
  ⟨hstoring, fun c heq => absurd heq (hprep c), fun c heq => absurd heq (hfree c),
    fun c hu => by rw [huses c] at hu; cases hu⟩

theorem Fits.call (hlive : s.stage c = .live) (hstoring : p.storing = false)
    (hprep : ∀ c, p ≠ .initMutex c) (hfree : ∀ c, p ≠ .freeBlocks c)
    (huses : ∀ c', p.uses c' = true → c' = c) : s.Fits i p :=
  ⟨hstoring, fun c heq => absurd heq (hprep c), fun c heq => absurd heq (hfree c),
    fun c' hu => by rw [huses c' hu]; exact hlive⟩

/-- A result is recorded and the lock is released next. -/
theorem Apart.done {op : Op CommandStream} {r : Result CommandStream} (h : s.Apart)
    (hin : (s.pc i).inside = true) : (s.done i c op r).Apart := by
  have hgoto : (s.goto i .release).Apart := by
    refine h.goto ?_ hin.symm
    exact .outside rfl (fun _ => by simp) (fun _ => by simp) fun _ => rfl
  exact ⟨hgoto.running, hgoto.lock, hgoto.storing, hgoto.one, hgoto.preparing, hgoto.freeing,
    hgoto.users, hgoto.cbuf, hgoto.apart, hgoto.here, hgoto.known, hgoto.fresh⟩

section
variable {op : Op CommandStream} {r : Result CommandStream} {cur cur' : CircularBuf}

/-- A call ends by moving a pointer of its buffer. -/
theorem Sound.written (h : s.Sound) (hin : (s.pc i).inside = true) (hcur : s.view c = some cur)
    (hmid : ∀ c', c' ≠ c → (s.pc i).midway c' = false)
    (hcall : ∀ b size q, Stores size b q → s.Midway c b cur →
      call b (i.val, op) = some (r, cur')) : ((s.write c cur').done i c op r).Sound := by
  obtain ⟨hupc, hmade, hhistory⟩ := write_frame s c cur'
  refine ⟨(h.apart.write c cur').done (hupc ▸ hin), ?_⟩
  exact h.tracked.done h.apart hin hupc hmade hhistory hcur (write_view_self hcur)
    (fun c' hc' => h.apart.write_view_ne hc') hmid hcall

/-- A call ends without a change. -/
theorem Sound.unwritten (h : s.Sound) (hin : (s.pc i).inside = true)
    (hcur : s.view c = some cur) (hmid : ∀ c', (s.pc i).midway c' = false)
    (hcall : ∀ b size q, Stores size b q → s.Midway c b cur →
      call b (i.val, op) = some (r, cur)) : (s.done i c op r).Sound := by
  refine ⟨h.apart.done hin, ?_⟩
  exact h.tracked.done h.apart hin rfl rfl rfl hcur hcur (fun _ _ => rfl) (fun c' _ => hmid c')
    hcall

end

theorem Sound.advance {data : CommandStream} {lostData : Bool} {cur : CircularBuf} (h : s.Sound)
    (hpc : s.pc i = .advance c data lostData) (hcur : s.view c = some cur) :
    ((s.write c (advancePointer cur)).done i c (.put data) (.put lostData)).Sound := by
  have hin : (s.pc i).inside = true := by rw [hpc]; rfl
  refine h.written hin hcur ?_ ?_
  · intro c' hc'
    rw [hpc]
    simp [Pc.midway, Ne.symm hc']
  · intro b size q hq hmid
    obtain ⟨rfl, rfl, hroom⟩ := hmid.put i data lostData hpc
    simp [call, circularBufPut, hroom]

theorem Sound.retreat {data found : CommandStream} {cur : CircularBuf} (h : s.Sound)
    (hpc : s.pc i = .retreat c data found) (hcur : s.view c = some cur) :
    ((s.write c (retreatPointer cur)).done i c (.get data) (.get false found)).Sound := by
  have hin : (s.pc i).inside = true := by rw [hpc]; rfl
  refine h.written hin hcur ?_ ?_
  · intro c' hc'
    rw [hpc]
    simp [Pc.midway, Ne.symm hc']
  · intro b size q hq hmid
    obtain ⟨hne, hfound⟩ := hmid.get i data found hpc
    have hrest : cur = b := hmid.at_rest h.apart hin (by simp [hpc])
    subst hrest
    simp [call, circularBufGet, hne, hfound]

/-- The body of a call, which leaves a sound state in every case. -/
theorem Sound.body {op : Op CommandStream} (h : s.Sound) (hpc : s.pc i = .body c op)
    (hstep : s.body i c op = some t) : t.Sound := by
  have hin : (s.pc i).inside = true := by rw [hpc]; rfl
  have hlive : s.stage c = .live := h.apart.users i c (by rw [hpc]; simp [Pc.uses])
  have hmidway (c' : Nat) : (s.pc i).midway c' = false := by rw [hpc]; rfl
  obtain ⟨cur, hcur, hstep⟩ := Option.bind_eq_some_iff.mp hstep
  have hrest {b : CircularBuf} (hmid : s.Midway c b cur) : cur = b :=
    hmid.at_rest h.apart hin (by simp [hpc])
  cases op with
  | put data =>
    dsimp only at hstep
    split at hstep
    · rename_i hroom
      cases hstep
      refine ⟨(h.apart.write c _).goto ?_ ?_, h.tracked.putStore h.apart hpc hcur hroom⟩
      · refine .call (c := c) ?_ rfl (fun _ => by simp) (fun _ => by simp)
          fun c' hu => (beq_iff_eq.mp hu).symm
        rw [write_stage]
        exact hlive
      · rw [(write_frame s c _).1]
        exact hin.symm
    · cases hstep
  | get data =>
    dsimp only at hstep
    split at hstep
    · rename_i hempty
      cases hstep
      refine h.unwritten hin hcur hmidway ?_
      intro b size q hq hmid
      cases hrest hmid
      simp [call, circularBufGet, hempty]
    · rename_i hne
      obtain ⟨found, hfound, rfl⟩ := Option.map_eq_some_iff.mp hstep
      refine ⟨h.apart.goto ?_ hin.symm, h.tracked.getFind h.apart hpc hcur ?_ hfound⟩
      · exact .call hlive rfl (fun _ => by simp) (fun _ => by simp)
          fun c' hu => (beq_iff_eq.mp hu).symm
      · exact Bool.eq_false_iff.mpr hne
  | size =>
    cases hstep
    refine h.unwritten hin hcur hmidway ?_
    intro b size q hq hmid
    cases hrest hmid
    rfl

/-- The assignment to `buffer` touches a new block only. -/
theorem Sound.initStore {size : Nat} {slots : Nat → CommandStream} (h : s.Sound)
    (hpc : s.pc i = .initStore size)
    (hone : 1 ≤ size → (∀ j, (s.pc j).storing = false) ∧
      (((size + 1) * sizeofCommandStream : Nat) : Int) < sizeTRange) :
    (s.initStore i size slots).Sound := by
  have hmidway (c' : Nat) : (s.pc i).midway c' = false := by rw [hpc]; rfl
  refine ⟨h.apart.initStore hpc hone, ?_⟩
  unfold Process.initStore
  split
  · exact h.tracked.goto rfl rfl (fun _ _ => id) rfl hmidway fun _ => rfl
  · refine h.tracked.goto (p := .initRead size slots) rfl rfl (fun c' cur hv => ?_) rfl hmidway
      fun _ => rfl
    obtain ⟨d, hd, hslots, heq⟩ := view_cases hv
    have hlt := (h.apart.cbuf c' d hd).2.1
    rw [heq]
    refine view_eq hd ?_
    exact (Function.update_of_ne (Nat.ne_of_lt hlt) _ _).symm.trans hslots

/-- The blocks that are freed are not seen any more. -/
theorem Sound.freeBlocks {d : Cbuf} (h : s.Sound) (hpc : s.pc i = .freeBlocks c)
    (hd : s.cbufs c = some d) : Sound { s.goto i .destroy with
      slots := Function.update s.slots d.buffer none
      cbufs := Function.update s.cbufs c none
      stage := Function.update s.stage c .gone } := by
  have hmidway (c' : Nat) : (s.pc i).midway c' = false := by rw [hpc]; rfl
  refine ⟨h.apart.freeBlocks hpc hd, h.tracked.goto (p := .destroy) rfl rfl (fun c' cur hv => ?_)
    rfl hmidway fun _ => rfl⟩
  obtain ⟨d', hd', hslots, heq⟩ := view_cases hv
  rw [heq]
  have hne : c' ≠ c := by
    rintro rfl
    cases (Function.update_self ..).symm.trans hd'
  have hold : s.cbufs c' = some d' := (Function.update_of_ne hne _ _).symm.trans hd'
  have hbuf : d'.buffer ≠ d.buffer := fun hb => hne (h.apart.apart c' c d' d hold hd hb)
  exact view_eq hold ((Function.update_of_ne hbuf _ _).symm.trans hslots)

theorem Sound.threadStep {slots : Nat → CommandStream} {destroyOk : Bool} (h : s.Sound)
    (hok : s.Unshared (.step i slots destroyOk))
    (hstep : s.threadStep i slots destroyOk = some t) : t.Sound := by
  unfold Process.threadStep at hstep
  unfold Unshared at hok
  dsimp only at hok
  cases hpc : s.pc i with
  | idle =>
    rw [hpc] at hstep
    cases hstep
  | initStore size =>
    rw [hpc] at hstep hok
    cases hstep
    exact h.initStore hpc hok
  | initRead size slots' =>
    rw [hpc] at hstep
    cases hstep
    exact ⟨h.apart.initRead hpc, h.tracked.initRead h.apart hpc⟩
  | initMutex c =>
    rw [hpc] at hstep hok
    cases hstep
    exact ⟨h.apart.initMutex hpc hok, h.tracked.goto (p := .idle) rfl rfl (fun _ _ => id) rfl
      (fun _ => by rw [hpc]; rfl) fun _ => rfl⟩
  | hold c op =>
    rw [hpc] at hstep hok
    dsimp only at hstep hok
    split at hstep
    · rename_i hlock
      cases hstep
      have hlive : s.stage c = .live := h.apart.users i c (by rw [hpc]; simp [Pc.uses])
      refine ⟨h.apart.hold ?_ rfl hlock, h.tracked.goto (p := .body c op) rfl rfl (fun _ _ => id)
        rfl (fun _ => by rw [hpc]; rfl) fun _ => rfl⟩
      exact .call hlive rfl (fun _ => by simp) (fun _ => by simp)
        fun c' hu => (beq_iff_eq.mp hu).symm
    · cases hstep
    · rename_i hlock
      exact absurd hlock hok
  | body c op =>
    rw [hpc] at hstep
    exact h.body hpc hstep
  | advance c data lostData =>
    rw [hpc] at hstep
    obtain ⟨cur, hcur, rfl⟩ := Option.map_eq_some_iff.mp hstep
    exact h.advance hpc hcur
  | retreat c data found =>
    rw [hpc] at hstep
    obtain ⟨cur, hcur, rfl⟩ := Option.map_eq_some_iff.mp hstep
    exact h.retreat hpc hcur
  | release =>
    have hin : (s.pc i).inside = true := by rw [hpc]; rfl
    have hlock := (h.apart.lock i).mp hin
    rw [hpc, hlock] at hstep
    cases hstep
    refine ⟨h.apart.unheld .idle rfl (fun j hj => ?_) (fun j heq => (by cases heq)),
      h.tracked.goto (p := .idle) rfl rfl (fun _ _ => id) rfl (fun _ => by rw [hpc]; rfl)
        fun _ => rfl⟩
    by_contra hinside
    have heq := ((h.apart.lock j).mp (Bool.not_eq_false _ ▸ hinside)).symm.trans hlock
    cases heq
    exact hj rfl
  | freeBlocks c =>
    rw [hpc] at hstep
    obtain ⟨d, hd, rfl⟩ := Option.map_eq_some_iff.mp hstep
    exact h.freeBlocks hpc hd
  | destroy =>
    rw [hpc] at hstep hok
    dsimp only at hstep hok
    have hmoved (l : Mutex k) (hl : ∀ j, l ≠ .locked j) :
        Sound { s.goto i .idle with lock := l } :=
      ⟨h.apart.unheld .idle rfl (fun j _ => h.apart.nobody_inside hok.1 j) hl,
        h.tracked.goto (p := .idle) rfl rfl (fun _ _ => id) rfl (fun _ => by rw [hpc]; rfl)
          fun _ => rfl⟩
    split at hstep
    · cases hstep
      exact hmoved .destroyed (fun j heq => (by cases heq))
    · rename_i j hlock
      exact absurd hlock (hok.1 j)
    · rename_i hlock
      rw [if_pos (hok.2 hlock)] at hstep
      cases hstep
      have hsame := hmoved s.lock hok.1
      exact hsame

theorem Sound.step {a : Action k} (h : s.Sound) (hok : s.Unshared a) (hstep : s.step a = some t) :
    t.Sound := by
  unfold Process.step at hstep
  rw [h.apart.running] at hstep
  simp only [Bool.false_eq_true, if_false] at hstep
  cases a with
  | init i size =>
    dsimp only at hstep
    split at hstep
    · rename_i hidle
      cases hstep
      have hpc := isIdle_iff.mp hidle
      refine ⟨h.apart.goto ?_ (by rw [hpc]; rfl), h.tracked.goto rfl rfl (fun _ _ => id) rfl
        (fun _ => by rw [hpc]; rfl) fun _ => rfl⟩
      exact .outside rfl (fun _ => by simp) (fun _ => by simp) fun _ => rfl
    · cases hstep
  | call i c op =>
    dsimp only at hstep
    split at hstep
    · rename_i hidle
      cases hstep
      have hpc := isIdle_iff.mp hidle.1
      refine ⟨h.apart.goto ?_ (by rw [hpc]; rfl), h.tracked.goto rfl rfl (fun _ _ => id) rfl
        (fun _ => by rw [hpc]; rfl) fun _ => rfl⟩
      exact .call hidle.2 rfl (fun _ => by simp) (fun _ => by simp)
        fun c' hu => (beq_iff_eq.mp hu).symm
    · cases hstep
  | free i c =>
    dsimp only at hstep
    split at hstep
    · rename_i hidle
      cases hstep
      have hpc := isIdle_iff.mp hidle.1
      exact ⟨h.apart.free (by rw [hpc]; rfl) hidle.2.1 hidle.2.2, h.tracked.goto
        (p := .freeBlocks c) rfl rfl (fun _ _ => id) rfl (fun _ => by rw [hpc]; rfl) fun _ => rfl⟩
    · cases hstep
  | step i slots destroyOk => exact h.threadStep hok hstep

theorem Sound.used (h : s.Sound) (huses : (s.pc i).uses c = true) :
    ∃ cur b size q, s.view c = some cur ∧ 1 ≤ size ∧ Stores size b q ∧ s.Midway c b cur := by
  have hlive := h.apart.users i c huses
  obtain ⟨d, hd⟩ := Option.ne_none_iff_exists'.mp
    (h.apart.cbufs_ne_none hlive (by simp) (by simp))
  obtain ⟨slots, hslots⟩ := Option.ne_none_iff_exists'.mp (h.apart.cbuf c d hd).2.2
  obtain ⟨⟨size, f⟩, hmade⟩ := h.apart.known c d hd
  obtain ⟨b, -, hb⟩ := h.tracked.alone c size f hmade
  obtain ⟨hsize, ⟨q, hq⟩, hmid⟩ := hb _ (view_eq hd hslots)
  exact ⟨_, b, size, q, view_eq hd hslots, hsize, hq, hmid⟩

end Process

end HexrotPxiCom.CircularBuffer
