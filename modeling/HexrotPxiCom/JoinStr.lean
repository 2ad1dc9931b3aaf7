import HexrotPxiCom.Lib.Memory
import HexrotPxiCom.Lib.SizeT

/-!
# Joining two strings

`joinStr` byte by byte, where a write outside a block has no result.
-/

namespace HexrotPxiCom.Utility

set_option autoImplicit false

/-- The joined string, by the answer of `calloc`. -/
def joinStr (allocated : Bool) (str1 str2 : Ptr) (m : Memory) : Option (Ptr × Memory) := do
  let lengStrJoin := sizeT ((← m.strlen str1) + (← m.strlen str2) + 1)
  let block := m.calloc allocated lengStrJoin
  -- a null pointer is written to all the same
  let strJoin ← block.1
  let m ← block.2.strncpy (sizeT ((← block.2.strlen str1) + 1)) strJoin str1
  let m ← m.strncat (sizeT (lengStrJoin - (← m.strlen str1))) strJoin str2
  return (strJoin, m)

/-- The new block holds the joined string, and nothing else has been written. -/
structure Joined (m : Memory) (s1 s2 : List UInt8) (strJoin : Ptr) (m' : Memory) : Prop where
  fresh : strJoin = ⟨m.blocks.length, 0⟩
  blocks : m'.blocks = m.blocks ++ [s1 ++ s2 ++ [0]]
  inside : ∃ written, m'.writes = m.writes ++ written ∧
    ∀ p ∈ written, p.block = strJoin.block ∧ p.offset < (s1 ++ s2 ++ [0]).length

section
variable {m : Memory} {str1 str2 : Ptr} {s1 s2 : List UInt8} {n : Nat}

/-- The copy of the first string has its NUL, and the rest of the block is still NUL. -/
theorem strncpy_first (hs : Memory.StringAt ⟨m.blocks ++ [List.replicate n 0], m.writes⟩ str1 s1)
    (hblock : str1.block < m.blocks.length) (hfit : s1.length + 1 ≤ n) :
    Memory.strncpy (s1.length + 1) ⟨m.blocks.length, 0⟩ str1
        ⟨m.blocks ++ [List.replicate n 0], m.writes⟩ =
      some ⟨m.blocks ++ [s1 ++ List.replicate (n - s1.length) 0],
        m.writes ++ Ptr.span ⟨m.blocks.length, 0⟩ (s1.length + 1)⟩ := by
  have hcopied : CString.strncpy (s1.length + 1) s1 = s1 ++ [0] := by
    rw [CString.strncpy_eq_append hs.1, List.take_of_length_le (Nat.le_succ _),
      Nat.add_sub_cancel_left, List.replicate_one]
  have hlength : (s1 ++ [0]).length = s1.length + 1 := by
    rw [List.length_append, List.length_singleton]
  have hrest : n - s1.length = n - (s1.length + 1) + 1 := by omega
  have hcontent : (List.replicate n 0).take 0 ++
      CString.store (s1 ++ [0]) ((List.replicate n 0).drop 0) =
        s1 ++ List.replicate (n - s1.length) 0 := by
    rw [List.take_zero, List.nil_append, List.drop_zero, CString.store, hlength,
      List.drop_replicate, List.append_assoc, List.singleton_append, hrest, List.replicate_succ]
  rw [Memory.strncpy_eq_storeBytes hs (Nat.ne_of_lt hblock), hcopied, Memory.storeBytes_last,
    hcontent, hlength]
  rw [hlength, List.length_replicate]
  omega

/-- After the first string there is room for the second one and a NUL. -/
theorem strncat_second {writes : List Ptr}
    (h1 : Memory.StringAt ⟨m.blocks ++ [s1 ++ List.replicate n 0], writes⟩ ⟨m.blocks.length, 0⟩ s1)
    (h2 : Memory.StringAt ⟨m.blocks ++ [s1 ++ List.replicate n 0], writes⟩ str2 s2)
    (hblock : str2.block < m.blocks.length) (hfit : n = s2.length + 1) :
    Memory.strncat n ⟨m.blocks.length, 0⟩ str2
        ⟨m.blocks ++ [s1 ++ List.replicate n 0], writes⟩ =
      some ⟨m.blocks ++ [s1 ++ s2 ++ [0]],
        writes ++ Ptr.span ⟨m.blocks.length, s1.length⟩ (s2.length + 1)⟩ := by
  subst hfit
  have happended : s2.take (s2.length + 1) ++ [0] = s2 ++ [0] := by
    rw [List.take_of_length_le (Nat.le_succ _)]
  have hlength : (s2 ++ [0]).length = s2.length + 1 := by
    rw [List.length_append, List.length_singleton]
  have hend : Ptr.add ⟨m.blocks.length, 0⟩ s1.length = ⟨m.blocks.length, s1.length⟩ := by
    rw [Ptr.add, Nat.zero_add]
  have hcontent : (s1 ++ List.replicate (s2.length + 1) 0).take s1.length ++
      CString.store (s2 ++ [0]) ((s1 ++ List.replicate (s2.length + 1) 0).drop s1.length) =
        s1 ++ s2 ++ [0] := by
    rw [List.take_left, List.drop_left, CString.store, hlength, List.drop_replicate,
      Nat.sub_self, List.replicate_zero, List.append_nil, List.append_assoc]
  rw [Memory.strncat, h1.strlen, Option.bind_eq_bind, Option.bind_some, hend,
    Memory.appendFrom_eq_storeBytes h2 (Nat.ne_of_lt hblock), happended, Memory.storeBytes_last,
    hcontent, hlength]
  rw [hlength, List.length_append, List.length_replicate]

/-- What is written, byte by byte: the first string with its NUL, and from there the second. -/
theorem joinStr_eq_some (h1 : m.StringAt str1 s1) (h2 : m.StringAt str2 s2)
    (hfit : (s1.length : Int) + s2.length + 1 < sizeTRange) :
    joinStr true str1 str2 m = some (⟨m.blocks.length, 0⟩,
      ⟨m.blocks ++ [s1 ++ s2 ++ [0]], m.writes ++ Ptr.span ⟨m.blocks.length, 0⟩ (s1.length + 1) ++
        Ptr.span ⟨m.blocks.length, s1.length⟩ (s2.length + 1)⟩) := by
  have hleng : sizeT (s1.length + s2.length + 1) = s1.length + s2.length + 1 :=
    sizeT_natCast (n := s1.length + s2.length + 1) (by push_cast; exact hfit)
  have hbound1 : sizeT (s1.length + 1) = s1.length + 1 :=
    sizeT_natCast (n := s1.length + 1) (by push_cast; omega)
  have hroom : s1.length + s2.length + 1 - s1.length = s2.length + 1 := by omega
  have hbound2 : sizeT (((s1.length + s2.length + 1 : Nat) : Int) - s1.length) = s2.length + 1 := by
    rw [← Int.ofNat_sub (by omega), hroom]
    exact sizeT_natCast (by push_cast; omega)
  have hfirst := strncpy_first (h1.push (List.replicate (s1.length + s2.length + 1) 0) m.writes)
    h1.block_lt (by omega)
  rw [hroom] at hfirst
  have hcopied : Memory.StringAt ⟨m.blocks ++ [s1 ++ List.replicate (s2.length + 1) 0],
      m.writes ++ Ptr.span ⟨m.blocks.length, 0⟩ (s1.length + 1)⟩ ⟨m.blocks.length, 0⟩ s1 := by
    refine ⟨h1.1, List.replicate s2.length 0, ?_⟩
    rw [Memory.bytesFrom_of_getElem? (b := s1 ++ List.replicate (s2.length + 1) 0) (by simp)]
    rfl
  have hsecond := strncat_second hcopied (h2.push _ _) h2.block_lt rfl
  rw [joinStr, h1.strlen, h2.strlen]
  simp only [Option.bind_eq_bind, Option.bind_some, hleng, Memory.calloc, if_pos,
    (h1.push _ _).strlen, hbound1, hfirst, hbound2, hsecond]
  rfl

end

/-- The block is filled exactly, and both strings are still there. -/
theorem joinStr_joined (m : Memory) (str1 str2 : Ptr) (s1 s2 : List UInt8)
    (h1 : m.StringAt str1 s1) (h2 : m.StringAt str2 s2)
    (hfit : (s1.length : Int) + s2.length + 1 < sizeTRange) :
    ∃ strJoin m', joinStr true str1 str2 m = some (strJoin, m') ∧
      Joined m s1 s2 strJoin m' ∧ m'.StringAt str1 s1 ∧ m'.StringAt str2 s2 := by
  refine ⟨_, _, joinStr_eq_some h1 h2 hfit, ⟨rfl, rfl, _, List.append_assoc _ _ _, ?_⟩,
    h1.push _ _, h2.push _ _⟩
  intro p hp
  rw [List.length_append, List.length_append, List.length_singleton]
  rcases List.mem_append.mp hp with hp | hp
  · obtain ⟨hblock, -, hlt⟩ := Ptr.mem_span hp
    exact ⟨hblock, by dsimp only at hlt; omega⟩
  · obtain ⟨hblock, -, hlt⟩ := Ptr.mem_span hp
    exact ⟨hblock, by dsimp only at hlt; omega⟩

/-- Two strings in one block, the second one the end of the first. -/
def abc : Memory := ⟨[[97, 98, 99, 0]], []⟩

theorem joinStr_abc : ∃ strJoin m', joinStr true ⟨0, 0⟩ ⟨0, 1⟩ abc = some (strJoin, m') ∧
    Joined abc [97, 98, 99] [98, 99] strJoin m' ∧
    m'.StringAt ⟨0, 0⟩ [97, 98, 99] ∧ m'.StringAt ⟨0, 1⟩ [98, 99] :=
  joinStr_joined abc ⟨0, 0⟩ ⟨0, 1⟩ [97, 98, 99] [98, 99] ⟨by decide, [], rfl⟩ ⟨by decide, [], rfl⟩
    (by decide)

end HexrotPxiCom.Utility
