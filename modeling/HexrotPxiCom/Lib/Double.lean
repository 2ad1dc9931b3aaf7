import HexrotPxiCom.Lib.Long

/-!
# Integers as doubles

Below `2 ^ 1024`, the integers among the values of `double` are those with a significand of 53
bits. Other integers are rounded to the nearest of these, and to the even one of two.
-/

namespace HexrotPxiCom

set_option autoImplicit false

structure Double where
  toInt : Int
  significand : ∃ (m : Int) (e : Nat), m.natAbs ≤ 2 ^ 53 ∧ toInt = m * 2 ^ e

namespace Double

/-- The quotient by `2 ^ e`, rounded to the nearest and to the even one of two. -/
def nearest (e n : Nat) : Nat :=
  if 2 * (n % 2 ^ e) < 2 ^ e ∨ 2 * (n % 2 ^ e) = 2 ^ e ∧ n / 2 ^ e % 2 = 0 then n / 2 ^ e
  else n / 2 ^ e + 1

/-- How many bits are too many. -/
def excess (n : Nat) : Nat := n.log2 + 1 - 53

theorem div_excess_lt (n : Nat) : n / 2 ^ excess n < 2 ^ 53 := by
  rw [Nat.div_lt_iff_lt_mul (Nat.two_pow_pos _), ← Nat.pow_add]
  apply Nat.lt_of_lt_of_le (Nat.lt_log2_self (n := n))
  apply Nat.pow_le_pow_right (by decide)
  unfold excess
  omega

theorem nearest_excess_le (n : Nat) : nearest (excess n) n ≤ 2 ^ 53 := by
  have hlt := div_excess_lt n
  unfold nearest
  split <;> omega

/-- A sign with a rounded quotient has no more than 53 bits. -/
theorem natAbs_sign_mul_le (z : Int) {q : Nat} (hq : q ≤ 2 ^ 53) :
    (z.sign * q).natAbs ≤ 2 ^ 53 := by
  rw [Int.natAbs_mul, Int.natAbs_natCast]
  rcases Int.lt_trichotomy z 0 with h | h | h
  · rw [Int.sign_eq_neg_one_of_neg h, Int.natAbs_neg, Int.natAbs_one, Nat.one_mul]
    exact hq
  · rw [h, Int.sign_zero, Int.natAbs_zero, Nat.zero_mul]
    exact Nat.zero_le _
  · rw [Int.sign_eq_one_of_pos h, Int.natAbs_one, Nat.one_mul]
    exact hq

def ofInt (z : Int) : Double where
  toInt := z.sign * nearest (excess z.natAbs) z.natAbs * 2 ^ excess z.natAbs
  significand := ⟨_, _, natAbs_sign_mul_le z (nearest_excess_le _), rfl⟩

def mul (x y : Double) : Double := ofInt (x.toInt * y.toInt)

/-- The conversion to `long`, without a result when the value does not fit. -/
def toLong (x : Double) : Option Int64 := Long.ofInt x.toInt

/-- An integer of 53 bits is a double. -/
theorem toInt_ofInt {z : Int} (h : z.natAbs < 2 ^ 53) : (ofInt z).toInt = z := by
  have hexcess : excess z.natAbs = 0 := by
    by_cases hz : z.natAbs = 0
    · rw [hz]
      decide
    · have hlog := (Nat.log2_lt hz).mpr h
      unfold excess
      omega
  have hnearest : nearest 0 z.natAbs = z.natAbs := by
    rw [nearest, Nat.pow_zero, Nat.mod_one, Nat.div_one, if_pos (Or.inl (by decide))]
  show z.sign * nearest (excess z.natAbs) z.natAbs * 2 ^ excess z.natAbs = z
  rw [hexcess, hnearest, Int.pow_zero, Int.mul_one, Int.sign_mul_natAbs]

end Double

end HexrotPxiCom
