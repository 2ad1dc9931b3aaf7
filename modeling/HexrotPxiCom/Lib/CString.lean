import Mathlib.Data.List.TakeWhile
import Mathlib.Data.UInt

/-!
# NUL-terminated strings

Memory is a list of bytes, with a NUL after its end. `strncmp` and `strncpy` work byte by byte,
as the C standard defines them.
-/

namespace HexrotPxiCom

set_option autoImplicit false

/-- The characters of a string, without the NUL at its end. -/
structure CString where
  chars : List UInt8
  noNul : 0 ∉ chars

namespace CString

/-- The characters before the first NUL. -/
def text (memory : List UInt8) : List UInt8 := memory.takeWhile (· ≠ 0)

def strlen (s : CString) : Nat := s.chars.length

/-- At most `n` characters are compared, and none after a NUL. -/
def strncmp : Nat → List UInt8 → List UInt8 → Int
  | 0, _, _ => 0
  | n + 1, s, t =>
    if s.headD 0 = t.headD 0 then
      if s.headD 0 = 0 then 0 else strncmp n s.tail t.tail
    else (s.headD 0).toNat - (t.headD 0).toNat

/-- The `n` bytes that are written: the characters before the first NUL, then NULs. -/
def strncpy : Nat → List UInt8 → List UInt8
  | 0, _ => []
  | n + 1, s =>
    if s.headD 0 = 0 then List.replicate (n + 1) 0 else s.headD 0 :: strncpy n s.tail

/-- What a buffer holds after bytes are written to its start. -/
def store (written buffer : List UInt8) : List UInt8 := written ++ buffer.drop written.length

/-- The bytes of a text of ASCII characters. -/
def ascii (s : List Char) : List UInt8 := s.map fun c => c.toNat.toUInt8

theorem nul_notMem_ascii {s : List Char} (h : ∀ c ∈ s, c.toNat.toUInt8 ≠ 0) :
    0 ∉ CString.ascii s := by
  intro hmem
  obtain ⟨c, hc, hnul⟩ := List.mem_map.mp hmem
  exact h c hc hnul

theorem nul_notMem_text (s : List UInt8) : 0 ∉ text s := by
  intro hmem
  have hne := List.mem_takeWhile_imp hmem
  simp at hne

theorem text_eq_self_iff (s : List UInt8) : text s = s ↔ 0 ∉ s := by
  constructor
  · intro h
    rw [← h]
    exact nul_notMem_text s
  · intro h
    apply List.takeWhile_eq_self_iff.mpr
    intro c hc
    have hne : c ≠ 0 := fun heq => h (heq ▸ hc)
    simpa using hne

/-- A block as `calloc` returns it is the empty string. -/
@[simp] theorem text_replicate (n : Nat) : text (List.replicate n 0) = [] := by
  cases n with
  | zero => rfl
  | succ n => simp [text, List.replicate_succ]

theorem text_append_nul {s : List UInt8} (h : 0 ∉ s) (rest : List UInt8) :
    text (s ++ 0 :: rest) = s := by
  have hall : ∀ c ∈ s, decide (c ≠ 0) = true := by
    intro c hc
    have hne : c ≠ 0 := fun heq => h (heq ▸ hc)
    simpa using hne
  rw [text, List.takeWhile_append_of_pos hall, List.takeWhile_cons_of_neg (by simp),
    List.append_nil]

@[simp] theorem length_strncpy (n : Nat) (s : List UInt8) : (strncpy n s).length = n := by
  induction n generalizing s with
  | zero => rfl
  | succ n ih =>
    rw [strncpy]
    split
    · exact List.length_replicate
    · rw [List.length_cons, ih]

/-- The string cut to `n` characters, and NULs in the rest of the `n` bytes. -/
theorem strncpy_eq_append {s : List UInt8} (h : 0 ∉ s) (n : Nat) :
    strncpy n s = s.take n ++ List.replicate (n - s.length) 0 := by
  induction n generalizing s with
  | zero => simp [strncpy]
  | succ n ih =>
    cases s with
    | nil => simp [strncpy]
    | cons c s =>
      have hc : c ≠ 0 := fun heq => h (heq ▸ List.mem_cons_self)
      have htail : 0 ∉ s := fun hmem => h (List.mem_cons_of_mem c hmem)
      rw [strncpy, List.headD_cons, if_neg hc, List.tail_cons, ih htail, List.take_succ_cons,
        List.length_cons, Nat.succ_sub_succ, List.cons_append]

/-- Only the characters before the first NUL are copied. -/
theorem strncpy_text (n : Nat) (s : List UInt8) : strncpy n (text s) = strncpy n s := by
  induction n generalizing s with
  | zero => rfl
  | succ n ih =>
    cases s with
    | nil => rfl
    | cons c s =>
      by_cases hc : c = 0
      · subst hc
        rfl
      · have htext : text (c :: s) = c :: text s := List.takeWhile_cons_of_pos (by simpa)
        rw [htext, strncpy, strncpy, List.headD_cons, List.headD_cons, if_neg hc, if_neg hc,
          List.tail_cons, List.tail_cons, ih]

/-- `strncpy` leaves the last byte of a buffer alone when it writes all the others. The string is
then NUL-terminated if it is shorter than these, or if the last byte was a NUL before. -/
theorem strncpy_store_iff {s init : List UInt8} {last : UInt8} (h : 0 ∉ s) :
    (0 ∈ store (strncpy init.length s) (init ++ [last]) ∧
      text (store (strncpy init.length s) (init ++ [last])) = s.take init.length) ↔
      s.length < init.length ∨ last = 0 := by
  have hstore : store (strncpy init.length s) (init ++ [last]) =
      s.take init.length ++ (List.replicate (init.length - s.length) 0 ++ [last]) := by
    rw [store, length_strncpy, List.drop_left, strncpy_eq_append h, List.append_assoc]
  have hcut : 0 ∉ s.take init.length := fun hmem => h (List.mem_of_mem_take hmem)
  rw [hstore]
  by_cases hlength : s.length < init.length
  · obtain ⟨k, hk⟩ := Nat.exists_eq_succ_of_ne_zero (Nat.sub_ne_zero_of_lt hlength)
    rw [hk, List.replicate_succ, List.cons_append]
    constructor
    · intro _
      exact Or.inl hlength
    · intro _
      exact ⟨List.mem_append_right _ List.mem_cons_self, text_append_nul hcut _⟩
  · rw [Nat.sub_eq_zero_of_le (by omega), List.replicate_zero, List.nil_append]
    constructor
    · rintro ⟨hmem, -⟩
      rcases List.mem_append.mp hmem with hmem | hmem
      · exact absurd hmem hcut
      · exact Or.inr (List.mem_singleton.mp hmem).symm
    · rintro (hlt | rfl)
      · exact absurd hlt hlength
      · exact ⟨List.mem_append_right _ List.mem_cons_self, text_append_nul hcut []⟩

/-- With room for the NUL, the copy is the string. -/
theorem text_strncpy (s : List UInt8) : text (strncpy (s.length + 1) s) = text s := by
  induction s with
  | nil => rfl
  | cons c s ih =>
    rw [List.length_cons, strncpy]
    by_cases hc : c = 0
    · subst hc
      rfl
    · rw [List.headD_cons, if_neg hc, List.tail_cons, text, List.takeWhile_cons_of_pos (by simpa),
        text, List.takeWhile_cons_of_pos (by simpa)]
      rw [← text, ← text, ih]

theorem toNat_sub_eq_zero {a b : UInt8} (h : (a.toNat : Int) - b.toNat = 0) : a = b := by
  apply UInt8.toNat_inj.mp
  omega

/-- Two texts of the compared length are equal for `strncmp` only if they are equal. -/
theorem strncmp_eq_zero_iff {n : Nat} {s t : List UInt8} (hs : s.length = n) (ht : t.length = n)
    (hnul : 0 ∉ t) : strncmp n s t = 0 ↔ s = t := by
  induction n generalizing s t with
  | zero =>
    rw [List.length_eq_zero_iff.mp hs, List.length_eq_zero_iff.mp ht]
    simp [strncmp]
  | succ n ih =>
    obtain ⟨a, s, rfl⟩ := List.exists_cons_of_length_eq_add_one hs
    obtain ⟨b, t, rfl⟩ := List.exists_cons_of_length_eq_add_one ht
    have hb : b ≠ 0 := fun h => hnul (h ▸ List.mem_cons_self)
    have htail : 0 ∉ t := fun h => hnul (List.mem_cons_of_mem b h)
    rw [strncmp, List.headD_cons, List.headD_cons, List.tail_cons, List.tail_cons]
    by_cases hab : a = b
    · subst hab
      rw [if_pos rfl, if_neg hb, ih (Nat.succ.inj hs) (Nat.succ.inj ht) htail]
      simp
    · rw [if_neg hab]
      constructor
      · intro h
        exact absurd (toNat_sub_eq_zero h) hab
      · intro h
        exact absurd (List.cons.inj h).1 hab

end CString

end HexrotPxiCom
