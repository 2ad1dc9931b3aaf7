import HexrotPxiCom.Lib.CString

/-!
# Printed numbers

The digits of a number determine it, also as the bytes of a string.
-/

namespace HexrotPxiCom.Numerals

set_option autoImplicit false

variable {b m n : Nat}

theorem digitChar_injective {d e : Nat} (hd : d < 16) (he : e < 16)
    (h : d.digitChar = e.digitChar) : d = e := by
  have hall : ∀ d < 16, ∀ e < 16, Nat.digitChar d = Nat.digitChar e → d = e := by decide
  exact hall d hd e he h

theorem digitChar_ascii {d : Nat} (hd : d < 16) : d.digitChar.toNat < 128 := by
  have hall : ∀ d < 16, (Nat.digitChar d).toNat < 128 := by decide
  exact hall d hd

theorem toDigits_of_le (hb : 1 < b) (hn : b ≤ n) :
    Nat.toDigits b n = Nat.toDigits b (n / b) ++ [(n % b).digitChar] := by
  rw [Nat.toDigits_eq_if hb, if_neg (Nat.not_lt.mpr hn)]

/-- The induction takes the last digit off. -/
theorem toDigits_injective (hb : 1 < b) (hb' : b ≤ 16)
    (h : Nat.toDigits b m = Nat.toDigits b n) : m = n := by
  have hlast : ∀ k, k % b < 16 := fun k => Nat.lt_of_lt_of_le (Nat.mod_lt k (by omega)) hb'
  have hshort : ∀ {i k}, i < b → b ≤ k → Nat.toDigits b i ≠ Nat.toDigits b k := by
    intro i k hi hk heq
    have hlength := congrArg List.length heq
    have hpos := Nat.length_toDigits_pos (b := b) (n := k / b)
    rw [Nat.toDigits_of_lt_base hi, toDigits_of_le hb hk, List.length_append] at hlength
    simp only [List.length_singleton] at hlength
    omega
  induction m using Nat.strongRecOn generalizing n with
  | ind m ih =>
    by_cases hm : m < b
    · by_cases hn : n < b
      · rw [Nat.toDigits_of_lt_base hm, Nat.toDigits_of_lt_base hn, List.singleton_inj] at h
        exact digitChar_injective (by omega) (by omega) h
      · exact absurd h (hshort hm (by omega))
    · by_cases hn : n < b
      · exact absurd h.symm (hshort hn (by omega))
      · have hbm : b ≤ m := Nat.le_of_not_lt hm
        have hbn : b ≤ n := Nat.le_of_not_lt hn
        rw [toDigits_of_le hb hbm, toDigits_of_le hb hbn] at h
        obtain ⟨hrest, hdigit⟩ := List.append_inj' h rfl
        have hdiv := ih (m / b) (Nat.div_lt_self (by omega) hb) hrest
        have hmod := digitChar_injective (hlast m) (hlast n) (List.singleton_inj.mp hdigit)
        rw [← Nat.div_add_mod m b, ← Nat.div_add_mod n b, hdiv, hmod]

theorem mem_toDigits (hb : 1 < b) {c : Char} (hc : c ∈ Nat.toDigits b n) :
    ∃ d < b, c = d.digitChar := by
  induction n using Nat.strongRecOn with
  | ind n ih =>
    by_cases hn : n < b
    · rw [Nat.toDigits_of_lt_base hn] at hc
      exact ⟨n, hn, List.mem_singleton.mp hc⟩
    · rw [toDigits_of_le hb (Nat.le_of_not_lt hn)] at hc
      rcases List.mem_append.mp hc with hc | hc
      · exact ih (n / b) (Nat.div_lt_self (by omega) hb) hc
      · exact ⟨n % b, Nat.mod_lt n (by omega), List.mem_singleton.mp hc⟩

theorem toDigits_ascii (hb : 1 < b) (hb' : b ≤ 16) {c : Char} (hc : c ∈ Nat.toDigits b n) :
    c.toNat < 128 := by
  obtain ⟨d, hd, rfl⟩ := mem_toDigits hb hc
  exact digitChar_ascii (Nat.lt_of_lt_of_le hd hb')

/-- A character that is no digit. -/
theorem notMem_toDigits (hb : 1 < b) (hb' : b ≤ 16) {c : Char}
    (hc : ∀ d < 16, Nat.digitChar d ≠ c) : c ∉ Nat.toDigits b n := by
  intro hmem
  obtain ⟨d, hd, rfl⟩ := mem_toDigits hb hmem
  exact hc d (Nat.lt_of_lt_of_le hd hb') rfl

/-- The last `c` splits a text in one way. -/
theorem append_cons_inj {c : Char} {s t x y : List Char} (hx : c ∉ x) (hy : c ∉ y)
    (h : s ++ c :: x = t ++ c :: y) : x = y ∧ s = t := by
  -- otherwise the longer beginning would go on with `c`, and an end would have another one
  rcases List.append_eq_append_iff.mp h with ⟨w, rfl, hw⟩ | ⟨w, rfl, hw⟩
  · cases w with
    | nil => simp_all
    | cons d w => simp_all
  · cases w with
    | nil => simp_all
    | cons d w => simp_all

/-- Texts of ASCII characters are as different as their bytes. -/
theorem ascii_injective {s t : List Char} (hs : ∀ c ∈ s, c.toNat < 128)
    (ht : ∀ c ∈ t, c.toNat < 128) (h : CString.ascii s = CString.ascii t) : s = t := by
  have hchar : ∀ c d : Char, c.toNat < 128 → d.toNat < 128 →
      c.toNat.toUInt8 = d.toNat.toUInt8 → c = d := by
    intro c d hc hd heq
    have hnat := congrArg UInt8.toNat heq
    simp only [Nat.toUInt8, UInt8.toNat_ofNat'] at hnat
    apply Char.toNat_inj.mp
    omega
  induction s generalizing t with
  | nil =>
    cases t with
    | nil => rfl
    | cons d t => cases h
  | cons c s ih =>
    cases t with
    | nil => cases h
    | cons d t =>
      obtain ⟨hhead, htail⟩ := List.cons.inj h
      have hcd := hchar c d (hs c List.mem_cons_self) (ht d List.mem_cons_self) hhead
      rw [hcd, ih (fun c hc => hs c (List.mem_cons_of_mem _ hc))
        (fun c hc => ht c (List.mem_cons_of_mem _ hc)) htail]

theorem ascii_toDigits_injective (hb : 1 < b) (hb' : b ≤ 16)
    (h : CString.ascii (Nat.toDigits b m) = CString.ascii (Nat.toDigits b n)) : m = n :=
  toDigits_injective hb hb' (ascii_injective (fun _ hc => toDigits_ascii hb hb' hc)
    (fun _ hc => toDigits_ascii hb hb' hc) h)

def decimal (n : Int) : List Char :=
  if n < 0 then '-' :: Nat.toDigits 10 n.natAbs else Nat.toDigits 10 n.natAbs

theorem decimal_injective : Function.Injective decimal := by
  have hminus : ∀ n : Nat, '-' ∉ Nat.toDigits 10 n := fun n =>
    notMem_toDigits (by decide) (by decide) (by decide)
  intro m n h
  unfold decimal at h
  split at h
  · split at h
    · have habs := toDigits_injective (by decide) (by decide) (List.cons.inj h).2
      omega
    · exact absurd (h ▸ List.mem_cons_self) (hminus n.natAbs)
  · split at h
    · exact absurd (h.symm ▸ List.mem_cons_self) (hminus m.natAbs)
    · have habs := toDigits_injective (by decide) (by decide) h
      omega

/-- A character that is neither a digit nor the sign. -/
theorem notMem_decimal {c : Char} (hsign : c ≠ '-') (hc : ∀ d < 16, Nat.digitChar d ≠ c)
    (n : Int) : c ∉ decimal n := by
  have hdigits := notMem_toDigits (b := 10) (n := n.natAbs) (by decide) (by decide) hc
  unfold decimal
  split
  · intro hmem
    rcases List.mem_cons.mp hmem with heq | hmem
    · exact hsign heq
    · exact hdigits hmem
  · exact hdigits

end HexrotPxiCom.Numerals
