import HexrotPxiCom.Lib.CString

/-!
# Memory in blocks

A pointer is a block and an offset into it, and nothing outside a block can be read or written.
`strlen`, `strncpy` and `strncat` go byte by byte, as the C standard defines them. What they
write is what the functions on lists of `CString` say, as long as they do not read the block
that they write to.
-/

namespace HexrotPxiCom

set_option autoImplicit false

structure Ptr where
  block : Nat
  offset : Nat
  deriving Repr, DecidableEq

/-- The allocated blocks, and the bytes that were written in their order. -/
structure Memory where
  blocks : List (List UInt8)
  writes : List Ptr
  deriving Repr, DecidableEq

namespace Ptr

def add (p : Ptr) (n : Nat) : Ptr := { p with offset := p.offset + n }

/-- The next `n` bytes. -/
def span (p : Ptr) (n : Nat) : List Ptr := (List.range n).map p.add

@[simp] theorem add_block (p : Ptr) (n : Nat) : (p.add n).block = p.block := rfl

@[simp] theorem add_offset (p : Ptr) (n : Nat) : (p.add n).offset = p.offset + n := rfl

theorem add_add (p : Ptr) (n k : Nat) : (p.add n).add k = p.add (n + k) := by
  rw [add, add, add, Nat.add_assoc]

theorem span_succ (p : Ptr) (n : Nat) : p.span (n + 1) = p :: (p.add 1).span n := by
  rw [span, List.range_succ_eq_map, List.map_cons, List.map_map, span]
  congr 1
  apply List.map_congr_left
  intro i _
  rw [Function.comp_apply, add_add, Nat.add_comm]

theorem mem_span {p q : Ptr} {n : Nat} (h : q ∈ p.span n) :
    q.block = p.block ∧ p.offset ≤ q.offset ∧ q.offset < p.offset + n := by
  obtain ⟨i, hi, rfl⟩ := List.mem_map.mp h
  have hlt := List.mem_range.mp hi
  exact ⟨rfl, Nat.le_add_right _ _, Nat.add_lt_add_left hlt _⟩

end Ptr

namespace Memory

/-- The bytes from a pointer to the end of its block. -/
def bytesFrom (m : Memory) (p : Ptr) : List UInt8 := (m.blocks.getD p.block []).drop p.offset

def load (m : Memory) (p : Ptr) : Option UInt8 := (m.bytesFrom p).head?

def store (p : Ptr) (c : UInt8) (m : Memory) : Option Memory :=
  match m.blocks[p.block]? with
  | none => none
  | some b =>
    if p.offset < b.length then
      some ⟨m.blocks.set p.block (b.set p.offset c), m.writes ++ [p]⟩
    else none

/-- A new block of NULs, unless there is no memory left. -/
def calloc (ok : Bool) (nmemb : Nat) (m : Memory) : Option Ptr × Memory :=
  if ok then
    (some ⟨m.blocks.length, 0⟩, { m with blocks := m.blocks ++ [List.replicate nmemb 0] })
  else (none, m)

def strlenFrom (m : Memory) : Nat → Ptr → Option Nat
  | 0, _ => none
  | n + 1, p => do
    if (← m.load p) = 0 then return 0
    else return (← strlenFrom m n (p.add 1)) + 1

/-- No string goes beyond the end of its block. -/
def strlen (m : Memory) (p : Ptr) : Option Nat := m.strlenFrom (m.bytesFrom p).length p

def fill : Nat → Ptr → Memory → Option Memory
  | 0, _, m => some m
  | n + 1, p, m => do fill n (p.add 1) (← m.store p 0)

/-- After a NUL has been copied, the rest of the `n` bytes are NULs. -/
def strncpy : Nat → Ptr → Ptr → Memory → Option Memory
  | 0, _, _, m => some m
  | n + 1, dest, src, m => do
    let c ← m.load src
    let m ← m.store dest c
    if c = 0 then m.fill n (dest.add 1) else m.strncpy n (dest.add 1) (src.add 1)

/-- At most `n` characters are appended, and then always a NUL. -/
def appendFrom : Nat → Ptr → Ptr → Memory → Option Memory
  | 0, dest, _, m => m.store dest 0
  | n + 1, dest, src, m => do
    let c ← m.load src
    if c = 0 then m.store dest 0
    else (← m.store dest c).appendFrom n (dest.add 1) (src.add 1)

def strncat (n : Nat) (dest src : Ptr) (m : Memory) : Option Memory := do
  m.appendFrom n (dest.add (← m.strlen dest)) src

/-- The bytes are stored one after the other. -/
def storeBytes : List UInt8 → Ptr → Memory → Option Memory
  | [], _, m => some m
  | c :: cs, p, m => do (← m.store p c).storeBytes cs (p.add 1)

/-- A string with its NUL. -/
def StringAt (m : Memory) (p : Ptr) (s : List UInt8) : Prop :=
  0 ∉ s ∧ ∃ rest, m.bytesFrom p = s ++ 0 :: rest

section
variable {m m' : Memory} {p q : Ptr} {b s : List UInt8} {c : UInt8} {n : Nat}

theorem bytesFrom_add (m : Memory) (p : Ptr) (n : Nat) :
    m.bytesFrom (p.add n) = (m.bytesFrom p).drop n := by
  rw [bytesFrom, bytesFrom, List.drop_drop]
  rfl

theorem bytesFrom_of_getElem? (h : m.blocks[p.block]? = some b) :
    m.bytesFrom p = b.drop p.offset := by
  rw [bytesFrom, List.getD_eq_getElem?_getD, h, Option.getD_some]

theorem store_eq_some_iff : m.store p c = some m' ↔
    ∃ b, m.blocks[p.block]? = some b ∧ p.offset < b.length ∧
      m' = ⟨m.blocks.set p.block (b.set p.offset c), m.writes ++ [p]⟩ := by
  unfold store
  constructor
  · intro h
    split at h
    · cases h
    · rename_i b hb
      split at h
      · rename_i hlt
        exact ⟨b, hb, hlt, (Option.some.inj h).symm⟩
      · cases h
  · rintro ⟨b, hb, hlt, rfl⟩
    rw [hb]
    exact if_pos hlt

theorem StringAt.of_block_eq (hs : m.StringAt q s)
    (h : m'.blocks[q.block]? = m.blocks[q.block]?) : m'.StringAt q s := by
  obtain ⟨hnul, rest, hrest⟩ := hs
  refine ⟨hnul, rest, ?_⟩
  rw [← hrest, bytesFrom, bytesFrom, List.getD_eq_getElem?_getD, h,
    ← List.getD_eq_getElem?_getD]

/-- Writing to one block leaves the strings in the others alone. -/
theorem StringAt.store (hs : m.StringAt q s) (h : m.store p c = some m')
    (hblock : q.block ≠ p.block) : m'.StringAt q s := by
  obtain ⟨b, -, -, rfl⟩ := store_eq_some_iff.mp h
  exact hs.of_block_eq (List.getElem?_set_ne (Ne.symm hblock))

theorem StringAt.block_lt (hs : m.StringAt q s) : q.block < m.blocks.length := by
  obtain ⟨-, rest, hrest⟩ := hs
  by_contra hge
  rw [bytesFrom, List.getD_eq_getElem?_getD, List.getElem?_eq_none (Nat.le_of_not_lt hge),
    Option.getD_none, List.drop_nil] at hrest
  simp at hrest

/-- A new block does not move the old ones. -/
theorem StringAt.push (hs : m.StringAt q s) (b : List UInt8) (writes : List Ptr) :
    StringAt ⟨m.blocks ++ [b], writes⟩ q s :=
  hs.of_block_eq (List.getElem?_append_left hs.block_lt)

theorem StringAt.load_nil (hs : m.StringAt p []) : m.load p = some 0 := by
  obtain ⟨-, rest, hrest⟩ := hs
  rw [load, hrest, List.nil_append, List.head?_cons]

theorem StringAt.load_cons (hs : m.StringAt p (c :: s)) : m.load p = some c ∧ c ≠ 0 := by
  obtain ⟨hnul, rest, hrest⟩ := hs
  refine ⟨by rw [load, hrest, List.cons_append, List.head?_cons], ?_⟩
  rintro rfl
  exact hnul List.mem_cons_self

theorem StringAt.tail (hs : m.StringAt p (c :: s)) : m.StringAt (p.add 1) s := by
  obtain ⟨hnul, rest, hrest⟩ := hs
  refine ⟨fun h => hnul (List.mem_cons_of_mem c h), rest, ?_⟩
  rw [bytesFrom_add, hrest, List.cons_append, List.drop_one, List.tail_cons]

theorem StringAt.length_lt (hs : m.StringAt p s) : s.length < (m.bytesFrom p).length := by
  obtain ⟨-, rest, hrest⟩ := hs
  rw [hrest, List.length_append, List.length_cons]
  omega

theorem StringAt.strlenFrom (hs : m.StringAt p s) (hn : s.length < n) :
    m.strlenFrom n p = some s.length := by
  induction s generalizing n p with
  | nil =>
    obtain ⟨k, rfl⟩ := Nat.exists_eq_succ_of_ne_zero (Nat.ne_of_gt hn)
    rw [Memory.strlenFrom, hs.load_nil]
    rfl
  | cons c s ih =>
    obtain ⟨k, rfl⟩ := Nat.exists_eq_succ_of_ne_zero (Nat.ne_of_gt (Nat.zero_lt_of_lt hn))
    obtain ⟨hload, hc⟩ := hs.load_cons
    rw [Memory.strlenFrom, hload, ih hs.tail (Nat.lt_of_succ_lt_succ hn)]
    simp [hc]

theorem StringAt.strlen (hs : m.StringAt p s) : m.strlen p = some s.length :=
  hs.strlenFrom hs.length_lt

theorem fill_eq_storeBytes (n : Nat) (p : Ptr) (m : Memory) :
    m.fill n p = m.storeBytes (List.replicate n 0) p := by
  induction n generalizing p m with
  | zero => rfl
  | succ n ih =>
    rw [fill, List.replicate_succ, storeBytes]
    congr 1
    funext m'
    exact ih _ m'

/-- From another block, `strncpy` copies what it copies on lists. -/
theorem strncpy_eq_storeBytes (hs : m.StringAt q s) (hblock : q.block ≠ p.block) (n : Nat) :
    m.strncpy n p q = m.storeBytes (CString.strncpy n s) p := by
  induction n generalizing m p q s with
  | zero => rfl
  | succ n ih =>
    cases s with
    | nil =>
      rw [Memory.strncpy, hs.load_nil, CString.strncpy, List.headD_nil, if_pos rfl,
        List.replicate_succ, storeBytes]
      simp only [Option.bind_eq_bind, Option.bind_some, if_pos]
      congr 1
      funext m'
      exact fill_eq_storeBytes n _ m'
    | cons c s =>
      obtain ⟨hload, hc⟩ := hs.load_cons
      rw [Memory.strncpy, hload, CString.strncpy, List.headD_cons, if_neg hc, List.tail_cons,
        storeBytes]
      simp only [Option.bind_eq_bind, Option.bind_some, if_neg hc]
      cases hstore : m.store p c with
      | none => rfl
      | some m' => exact ih (hs.store hstore hblock).tail hblock

/-- From another block, at most `n` characters are appended, and a NUL. -/
theorem appendFrom_eq_storeBytes (hs : m.StringAt q s) (hblock : q.block ≠ p.block) (n : Nat) :
    m.appendFrom n p q = m.storeBytes (s.take n ++ [0]) p := by
  induction n generalizing m p q s with
  | zero =>
    rw [appendFrom, List.take_zero, List.nil_append, storeBytes]
    cases m.store p 0 <;> rfl
  | succ n ih =>
    cases s with
    | nil =>
      rw [appendFrom, hs.load_nil, List.take_nil, List.nil_append, storeBytes]
      cases m.store p 0 <;> rfl
    | cons c s =>
      obtain ⟨hload, hc⟩ := hs.load_cons
      rw [appendFrom, hload, List.take_succ_cons, List.cons_append, storeBytes]
      simp only [Option.bind_eq_bind, Option.bind_some, if_neg hc]
      cases hstore : m.store p c with
      | none => rfl
      | some m' => exact ih (hs.store hstore hblock).tail hblock

/-- Bytes that fit into a block replace what it holds there, and nothing else is written. -/
theorem storeBytes_eq_some {cs : List UInt8} (hb : m.blocks[p.block]? = some b)
    (hfit : p.offset + cs.length ≤ b.length) :
    m.storeBytes cs p = some ⟨m.blocks.set p.block
      (b.take p.offset ++ CString.store cs (b.drop p.offset)), m.writes ++ p.span cs.length⟩ := by
  induction cs generalizing m p b with
  | nil =>
    have hsame : m.blocks.set p.block b = m.blocks := by
      apply List.ext_getElem?
      intro i
      by_cases hi : p.block = i
      · subst hi
        rw [List.getElem?_set_self (List.getElem?_eq_some_iff.mp hb).1, hb]
      · rw [List.getElem?_set_ne hi]
    simp [storeBytes, CString.store, Ptr.span, hsame]
  | cons c cs ih =>
    rw [List.length_cons] at hfit
    have hstore : m.store p c =
        some ⟨m.blocks.set p.block (b.set p.offset c), m.writes ++ [p]⟩ :=
      store_eq_some_iff.mpr ⟨b, hb, by omega, rfl⟩
    have hblock : (m.blocks.set p.block (b.set p.offset c))[p.block]? =
        some (b.set p.offset c) :=
      List.getElem?_set_self (List.getElem?_eq_some_iff.mp hb).1
    rw [storeBytes, hstore]
    simp only [Option.bind_eq_bind, Option.bind_some]
    have hfit' : p.offset + 1 + cs.length ≤ (b.set p.offset c).length := by
      rw [List.length_set]
      omega
    have hset : b.set p.offset c = (b.take p.offset ++ [c]) ++ b.drop (p.offset + 1) := by
      rw [List.set_eq_take_append_cons_drop, if_pos (by omega), List.append_assoc,
        List.singleton_append]
    have hlength : (b.take p.offset ++ [c]).length = p.offset + 1 := by
      rw [List.length_append, List.length_take, List.length_singleton]
      omega
    have hcontent : (b.set p.offset c).take (p.offset + 1) ++
        CString.store cs ((b.set p.offset c).drop (p.offset + 1)) =
          b.take p.offset ++ CString.store (c :: cs) (b.drop p.offset) := by
      rw [hset, List.take_left' hlength, List.drop_left' hlength, List.append_assoc,
        CString.store, CString.store, List.length_cons, List.drop_drop, List.drop_drop,
        List.singleton_append, List.cons_append]
      congr 4
      omega
    rw [ih hblock hfit', Ptr.add_block, Ptr.add_offset, List.set_set, hcontent,
      List.append_assoc, List.length_cons, Ptr.span_succ, List.singleton_append]

/-- Bytes that fit into the block that was allocated last. -/
theorem storeBytes_last {cs : List UInt8} {k : Nat} (blocks : List (List UInt8))
    (writes : List Ptr) (hfit : k + cs.length ≤ b.length) :
    storeBytes cs ⟨blocks.length, k⟩ ⟨blocks ++ [b], writes⟩ =
      some ⟨blocks ++ [b.take k ++ CString.store cs (b.drop k)],
        writes ++ Ptr.span ⟨blocks.length, k⟩ cs.length⟩ := by
  have hlast : (blocks ++ [b])[blocks.length]? = some b := by simp
  rw [storeBytes_eq_some (b := b) hlast hfit]
  simp

end

end Memory

end HexrotPxiCom
