import Mathlib.Data.Int.Order.Basic
import Mathlib.Data.UInt

/-!
# Arithmetic of `long`

A signed computation whose value does not fit in 64 bits has no result.
-/

namespace HexrotPxiCom.Long

set_option autoImplicit false

def Fits (z : Int) : Prop := -2 ^ 63 ≤ z ∧ z < 2 ^ 63

instance (z : Int) : Decidable (Fits z) := inferInstanceAs (Decidable (_ ∧ _))

/-- The `long` with this value. -/
def ofInt (z : Int) : Option Int64 := if Fits z then some (Int64.ofInt z) else none

def add (a b : Int64) : Option Int64 := ofInt (a.toInt + b.toInt)

def sub (a b : Int64) : Option Int64 := ofInt (a.toInt - b.toInt)

def mul (a b : Int64) : Option Int64 := ofInt (a.toInt * b.toInt)

/-- The quotient is rounded towards zero. -/
def div (a b : Int64) : Option Int64 := if b = 0 then none else ofInt (a.toInt.tdiv b.toInt)

/-- The remainder is defined where the quotient is. -/
def mod (a b : Int64) : Option Int64 := (div a b).bind fun _ => ofInt (a.toInt.tmod b.toInt)

theorem fits_toInt (a : Int64) : Fits a.toInt := ⟨a.le_toInt, a.toInt_lt⟩

theorem ofInt_eq_some_iff {z : Int} {a : Int64} : ofInt z = some a ↔ a.toInt = z := by
  unfold ofInt
  constructor
  · intro h
    split at h
    · rename_i hfits
      cases h
      exact Int64.toInt_ofInt_of_le hfits.1 hfits.2
    · cases h
  · rintro rfl
    rw [if_pos (fits_toInt a), Int64.ofInt_toInt]

theorem ofInt_eq_none_iff {z : Int} : ofInt z = none ↔ ¬ Fits z := by
  unfold ofInt
  split <;> simp [*]

theorem exists_toInt {z : Int} (h : Fits z) : ∃ a : Int64, a.toInt = z :=
  ⟨Int64.ofInt z, Int64.toInt_ofInt_of_le h.1 h.2⟩

section
variable {a b c : Int64}

theorem add_eq_some_iff : add a b = some c ↔ c.toInt = a.toInt + b.toInt := ofInt_eq_some_iff

theorem sub_eq_some_iff : sub a b = some c ↔ c.toInt = a.toInt - b.toInt := ofInt_eq_some_iff

theorem mul_eq_some_iff : mul a b = some c ↔ c.toInt = a.toInt * b.toInt := ofInt_eq_some_iff

theorem sub_eq_none_iff : sub a b = none ↔ ¬ Fits (a.toInt - b.toInt) := ofInt_eq_none_iff

/-- On values that are not negative the quotient is that of the integers. -/
theorem div_eq_some_iff (ha : 0 ≤ a.toInt) (hb : 0 < b.toInt) :
    div a b = some c ↔ c.toInt = a.toInt / b.toInt := by
  have hne : b ≠ 0 := by
    rintro rfl
    exact absurd hb (by decide)
  rw [div, if_neg hne, Int.tdiv_eq_ediv_of_nonneg ha]
  exact ofInt_eq_some_iff

theorem fits_div (ha : 0 ≤ a.toInt) (hb : 0 < b.toInt) : Fits (a.toInt / b.toInt) := by
  have hle : a.toInt / b.toInt ≤ a.toInt := Int.ediv_le_self _ ha
  have hpos : 0 ≤ a.toInt / b.toInt := Int.ediv_nonneg ha (Int.le_of_lt hb)
  have hfits := fits_toInt a
  unfold Fits at hfits ⊢
  omega

theorem mod_eq_some_iff (ha : 0 ≤ a.toInt) (hb : 0 < b.toInt) :
    mod a b = some c ↔ c.toInt = a.toInt % b.toInt := by
  obtain ⟨q, hq⟩ := exists_toInt (fits_div ha hb)
  rw [mod, (div_eq_some_iff ha hb).mpr hq, Option.bind_some, Int.tmod_eq_emod_of_nonneg ha]
  exact ofInt_eq_some_iff

end

end HexrotPxiCom.Long
