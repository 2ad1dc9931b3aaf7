import Mathlib.Algebra.Group.Int.Defs
import Mathlib.Logic.Function.Iterate

/-!
# Arithmetic of `size_t` and `int`

Values of `size_t` are natural numbers; a result is reduced to 64 bits where the source
computes it. Values of `int` are integers, and a counter of this type goes from the largest one
to the smallest one.
-/

namespace HexrotPxiCom

set_option autoImplicit false

/-- The number of values of `size_t`. -/
def sizeTRange : Int := 2 ^ 64

/-- The conversion of an integer to `size_t`. -/
def sizeT (z : Int) : Nat := (z % sizeTRange).toNat

theorem sizeT_natCast {n : Nat} (h : (n : Int) < sizeTRange) : sizeT n = n := by
  unfold sizeT
  rw [Int.emod_eq_of_lt (Int.natCast_nonneg n) h, Int.toNat_natCast]

theorem sizeT_lt (z : Int) : (sizeT z : Int) < sizeTRange := by
  have hpos : (0 : Int) < sizeTRange := by decide
  unfold sizeT
  rw [Int.toNat_of_nonneg (Int.emod_nonneg z (Int.ne_of_gt hpos))]
  exact Int.emod_lt_of_pos z hpos

theorem sizeT_mul {n : Int} {size : Nat} (hn : 0 ≤ n) (hfit : n * size < sizeTRange) :
    sizeT (n * size) = n.toNat * size := by
  have hpos : 0 ≤ n * size := Int.mul_nonneg hn (Int.natCast_nonneg size)
  unfold sizeT
  rw [Int.emod_eq_of_lt hpos hfit, Int.toNat_mul hn (Int.natCast_nonneg size), Int.toNat_natCast]

theorem sizeT_mul_ne_zero {n : Int} {size : Nat} (hn : 0 < n) (hsize : 0 < size)
    (hfit : n * size < sizeTRange) : sizeT (n * size) ≠ 0 := by
  rw [sizeT_mul (by omega) hfit]
  exact Nat.mul_ne_zero (by omega) (by omega)

theorem mul_lt_sizeTRange {m n : Int} {size : Nat} (hm : m ≤ n) (hfit : n * size < sizeTRange) :
    m * size < sizeTRange :=
  Int.lt_of_le_of_lt (Int.mul_le_mul_of_nonneg_right hm (Int.natCast_nonneg size)) hfit

/-- A product that is computed without wrapping is the product. -/
theorem le_sizeT_iff {n : Nat} : n ≤ sizeT n ↔ (n : Int) < sizeTRange := by
  constructor
  · intro h
    have hlt := sizeT_lt n
    omega
  · intro h
    exact Nat.le_of_eq (sizeT_natCast h).symm

/-- The largest value of `int`. -/
def intMax : Int := 2 ^ 31 - 1

/-- `i + 1` as a counter of type `int`. C leaves the overflow undefined, and the machine
wraps around. -/
def intSucc (i : Int) : Int := if i < intMax then i + 1 else -2 ^ 31

theorem intSucc_of_lt {i : Int} (h : i < intMax) : intSucc i = i + 1 := if_pos h

theorem intSucc_le (i : Int) : intSucc i ≤ intMax := by
  unfold intSucc intMax
  split <;> omega

theorem intSucc_iterate {k : Nat} (hk : k ≤ intMax) : intSucc^[k] 0 = k := by
  induction k with
  | zero => rfl
  | succ k ih =>
    have hlt : (k : Int) < intMax := by omega
    rw [Function.iterate_succ_apply', ih (Int.le_of_lt hlt), intSucc_of_lt hlt]
    rfl

theorem intSucc_iterate_wraps {k : Nat} (hk : k = intMax + 1) : intSucc^[k] 0 = -2 ^ 31 := by
  cases k with
  | zero => exact absurd hk (by decide)
  | succ k =>
    have hlast : (k : Int) = intMax := by omega
    rw [Function.iterate_succ_apply', intSucc_iterate (Int.le_of_eq hlast), hlast]
    exact if_neg (Int.lt_irrefl _)

theorem intSucc_ne (i : Int) : intSucc i ≠ i := by
  unfold intSucc intMax
  split <;> omega

end HexrotPxiCom
