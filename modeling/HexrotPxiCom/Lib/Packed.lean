import Mathlib.Algebra.BigOperators.Group.List.Basic
import Mathlib.Algebra.GroupWithZero.Nat

/-!
# Packed records of little-endian words

A record is a list of numbers and a layout is the list of their widths in bytes. Packing
puts the words one behind the other, without padding.
-/

namespace HexrotPxiCom.Packed

set_option autoImplicit false

/-- The `w` bytes of a number, the lowest one first. -/
def word : Nat → Nat → List UInt8
  | 0, _ => []
  | w + 1, n => UInt8.ofNat n :: word w (n / 256)

/-- The number that the bytes stand for. -/
def value : List UInt8 → Nat
  | [] => 0
  | b :: bs => b.toNat + 256 * value bs

@[simp] theorem length_word (w n : Nat) : (word w n).length = w := by
  induction w generalizing n with
  | zero => rfl
  | succ w ih => rw [word, List.length_cons, ih]

theorem value_lt (bs : List UInt8) : value bs < 256 ^ bs.length := by
  induction bs with
  | nil => exact Nat.one_pos
  | cons b bs ih =>
    have hb := b.toNat_lt
    rw [value, List.length_cons, Nat.pow_succ]
    omega

theorem value_word {w n : Nat} (h : n < 256 ^ w) : value (word w n) = n := by
  induction w generalizing n with
  | zero =>
    rw [Nat.pow_zero] at h
    exact (Nat.lt_one_iff.mp h).symm
  | succ w ih =>
    have hdiv : n / 256 < 256 ^ w := by
      apply Nat.div_lt_of_lt_mul
      rwa [Nat.mul_comm, ← Nat.pow_succ]
    rw [word, value, ih hdiv, UInt8.toNat_ofNat']
    exact Nat.mod_add_div n 256

theorem word_value (bs : List UInt8) : word bs.length (value bs) = bs := by
  induction bs with
  | nil => rfl
  | cons b bs ih =>
    have hb := b.toNat_lt
    have hdiv : (b.toNat + 256 * value bs) / 256 = value bs := by omega
    have hlow : UInt8.ofNat (b.toNat + 256 * value bs) = b := by
      apply UInt8.toNat_inj.mp
      rw [UInt8.toNat_ofNat']
      omega
    rw [value, List.length_cons, word, hdiv, ih, hlow]

def pack : List Nat → List Nat → List UInt8
  | w :: ws, n :: ns => word w n ++ pack ws ns
  | _, _ => []

def unpack : List Nat → List UInt8 → List Nat
  | [], _ => []
  | w :: ws, bs => value (bs.take w) :: unpack ws (bs.drop w)

/-- Each number fits into the width of its field. -/
def Fits (ws ns : List Nat) : Prop := List.Forall₂ (fun w n => n < 256 ^ w) ws ns

theorem length_pack {ws ns : List Nat} (h : Fits ws ns) : (pack ws ns).length = ws.sum := by
  induction h with
  | nil => rfl
  | cons _ _ ih => rw [pack, List.length_append, length_word, ih, List.sum_cons]

theorem unpack_pack {ws ns : List Nat} (h : Fits ws ns) : unpack ws (pack ws ns) = ns := by
  induction h with
  | nil => rfl
  | @cons w n ws ns hn _ ih =>
    rw [pack, unpack, List.take_left' (length_word w n), List.drop_left' (length_word w n),
      value_word hn, ih]

theorem unpack_fits {ws : List Nat} {bs : List UInt8} (h : bs.length = ws.sum) :
    Fits ws (unpack ws bs) := by
  induction ws generalizing bs with
  | nil => exact .nil
  | cons w ws ih =>
    rw [List.sum_cons] at h
    have htake : (bs.take w).length = w := by
      rw [List.length_take]
      omega
    have hdrop : (bs.drop w).length = ws.sum := by
      rw [List.length_drop]
      omega
    refine .cons ?_ (ih hdrop)
    have hlt := value_lt (bs.take w)
    rwa [htake] at hlt

theorem pack_unpack {ws : List Nat} {bs : List UInt8} (h : bs.length = ws.sum) :
    pack ws (unpack ws bs) = bs := by
  induction ws generalizing bs with
  | nil => exact (List.eq_nil_of_length_eq_zero h).symm
  | cons w ws ih =>
    rw [List.sum_cons] at h
    have htake : (bs.take w).length = w := by
      rw [List.length_take]
      omega
    have hdrop : (bs.drop w).length = ws.sum := by
      rw [List.length_drop]
      omega
    have hword := word_value (bs.take w)
    rw [htake] at hword
    rw [unpack, pack, hword, ih hdrop, List.take_append_drop]

end HexrotPxiCom.Packed
