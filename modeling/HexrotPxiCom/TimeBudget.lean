import HexrotPxiCom.Lib.Timespec

/-!
# Time passed and time left

`calcTimeDiff` and `calcTimeLeft` in the arithmetic of `long`, without a result where a
computation overflows.
-/

namespace HexrotPxiCom.Utility

set_option autoImplicit false

open Timespec

def secToNs : Int64 := 1000000000

def calcTimeDiff (pTimeStart pTimeEnd : Timespec) : Option Timespec := do
  if (← Long.sub pTimeEnd.tvNsec pTimeStart.tvNsec) < 0 then
    let tvSec ← Long.sub (← Long.sub pTimeEnd.tvSec pTimeStart.tvSec) 1
    let tvNsec ← Long.sub (← Long.add secToNs pTimeEnd.tvNsec) pTimeStart.tvNsec
    return ⟨tvSec, tvNsec⟩
  else
    let tvSec ← Long.sub pTimeEnd.tvSec pTimeStart.tvSec
    let tvNsec ← Long.sub pTimeEnd.tvNsec pTimeStart.tvNsec
    return ⟨tvSec, tvNsec⟩

/-- The value that is returned, and the time left. -/
def calcTimeLeft (pTimePassed : Timespec) (maxTimeInNs : Int64) : Option (Int × Timespec) := do
  let passedTimeInNs ← Long.add (← Long.mul pTimePassed.tvSec secToNs) pTimePassed.tvNsec
  if passedTimeInNs ≥ maxTimeInNs then
    return (-1, ⟨0, 0⟩)
  else
    let leftTimeInNs ← Long.sub maxTimeInNs passedTimeInNs
    let tvSec ← Long.div leftTimeInNs secToNs
    let tvNsec ← Long.mod leftTimeInNs secToNs
    return (0, ⟨tvSec, tvNsec⟩)

/-- `calcTimeLeft` on the time passed. -/
structure TimeLeft (pTimePassed : Timespec) (maxTimeInNs : Int64) (result : Int × Timespec) :
    Prop where
  passed : result = (-1, ⟨0, 0⟩) ↔ maxTimeInNs.toInt ≤ pTimePassed.toNs
  left : pTimePassed.toNs < maxTimeInNs.toInt →
    result.1 = 0 ∧ result.2.Normalised ∧ pTimePassed.toNs + result.2.toNs = maxTimeInNs.toInt

/-- The two functions account for every nanosecond, and nothing overflows. -/
def Accounted (pTimeStart pTimeEnd : Timespec) (maxTimeInNs : Int64) : Prop :=
  ∃ d result, calcTimeDiff pTimeStart pTimeEnd = some d ∧ d.Normalised ∧
    pTimeStart.toNs + d.toNs = pTimeEnd.toNs ∧
    calcTimeLeft d maxTimeInNs = some result ∧ TimeLeft d maxTimeInNs result

/-- What `calcTimeLeft` needs so that the time passed does not overflow. -/
structure Countable (pTimePassed : Timespec) : Prop where
  seconds : Long.Fits (pTimePassed.tvSec.toInt * nsPerSec)
  total : Long.Fits pTimePassed.toNs

section
variable {pTimeStart pTimeEnd pTimePassed : Timespec} {maxTimeInNs : Int64}

theorem secToNs_toInt : secToNs.toInt = nsPerSec := by decide

/-- A negative difference of the nanoseconds borrows one of the seconds. -/
theorem calcTimeDiff_eq_some {d : Timespec} (hstart : pTimeStart.Normalised)
    (hend : pTimeEnd.Normalised) (hd : d.Normalised) (hfits : Long.Fits d.toNs)
    (hdiff : d.toNs = pTimeEnd.toNs - pTimeStart.toNs) :
    calcTimeDiff pTimeStart pTimeEnd = some d := by
  unfold Normalised nsPerSec at hstart hend hd
  unfold Long.Fits at hfits
  unfold toNs nsPerSec at hdiff hfits
  obtain ⟨nsec, hnsec⟩ := Long.exists_toInt
    (z := pTimeEnd.tvNsec.toInt - pTimeStart.tvNsec.toInt) (by unfold Long.Fits; omega)
  obtain ⟨sec, hsec⟩ := Long.exists_toInt
    (z := pTimeEnd.tvSec.toInt - pTimeStart.tvSec.toInt) (by unfold Long.Fits; omega)
  rw [calcTimeDiff, Long.sub_eq_some_iff.mpr hnsec, Long.sub_eq_some_iff.mpr hsec]
  by_cases hborrow : nsec < 0
  · have hneg : nsec.toInt < 0 := Int64.lt_iff_toInt_lt.mp hborrow
    obtain ⟨sum, hsum⟩ := Long.exists_toInt
      (z := secToNs.toInt + pTimeEnd.tvNsec.toInt) (by
        rw [secToNs_toInt]
        unfold Long.Fits nsPerSec
        omega)
    have hsumVal : sum.toInt = 1000000000 + pTimeEnd.tvNsec.toInt := hsum
    have hone : (1 : Int64).toInt = 1 := by decide
    have hdSec : Long.sub sec 1 = some d.tvSec := Long.sub_eq_some_iff.mpr (by omega)
    have hdNsec : Long.sub sum pTimeStart.tvNsec = some d.tvNsec :=
      Long.sub_eq_some_iff.mpr (by omega)
    simp only [Option.bind_eq_bind, Option.bind_some, if_pos hborrow, hdSec,
      Long.add_eq_some_iff.mpr hsum, hdNsec]
    rfl
  · have hpos : ¬ nsec.toInt < 0 := fun h => hborrow (Int64.lt_iff_toInt_lt.mpr h)
    have hdSec : sec = d.tvSec := Int64.toInt_inj.mp (by omega)
    have hdNsec : nsec = d.tvNsec := Int64.toInt_inj.mp (by omega)
    simp only [Option.bind_eq_bind, Option.bind_some, if_neg hborrow]
    rw [hdSec, hdNsec]
    rfl

theorem Countable.of_normalised (h : pTimePassed.Normalised)
    (hlow : -2 ^ 62 ≤ pTimePassed.toNs) (hhigh : pTimePassed.toNs ≤ 2 ^ 62) :
    Countable pTimePassed := by
  unfold Normalised nsPerSec at h
  unfold toNs nsPerSec at hlow hhigh
  constructor
  · unfold Long.Fits nsPerSec
    omega
  · unfold Long.Fits toNs nsPerSec
    omega

theorem Countable.exists_passedTimeInNs (h : Countable pTimePassed) :
    ∃ sec passed, Long.mul pTimePassed.tvSec secToNs = some sec ∧
      Long.add sec pTimePassed.tvNsec = some passed ∧ passed.toInt = pTimePassed.toNs := by
  obtain ⟨sec, hsec⟩ := Long.exists_toInt h.seconds
  obtain ⟨passed, hpassed⟩ := Long.exists_toInt h.total
  refine ⟨sec, passed, Long.mul_eq_some_iff.mpr hsec, Long.add_eq_some_iff.mpr ?_, hpassed⟩
  rw [hpassed, toNs, hsec]

theorem calcTimeLeft_over (hpassed : Countable pTimePassed)
    (hover : maxTimeInNs.toInt ≤ pTimePassed.toNs) :
    calcTimeLeft pTimePassed maxTimeInNs = some (-1, ⟨0, 0⟩) := by
  obtain ⟨sec, passed, hsec, hadd, hval⟩ := hpassed.exists_passedTimeInNs
  have hge : passed ≥ maxTimeInNs := Int64.le_iff_toInt_le.mpr (by omega)
  rw [calcTimeLeft, hsec]
  simp only [Option.bind_eq_bind, Option.bind_some, hadd, if_pos hge]
  rfl

theorem calcTimeLeft_within {left : Timespec} (hpassed : Countable pTimePassed)
    (hleft : left.Normalised) (hwithin : pTimePassed.toNs < maxTimeInNs.toInt)
    (hfits : Long.Fits left.toNs) (hsum : pTimePassed.toNs + left.toNs = maxTimeInNs.toInt) :
    calcTimeLeft pTimePassed maxTimeInNs = some (0, left) := by
  obtain ⟨sec, passed, hsec, hadd, hval⟩ := hpassed.exists_passedTimeInNs
  obtain ⟨leftTimeInNs, hleftVal⟩ := Long.exists_toInt hfits
  have hlt : ¬ passed ≥ maxTimeInNs :=
    Int64.not_le.mpr (Int64.lt_iff_toInt_lt.mpr (by omega))
  have hsub : Long.sub maxTimeInNs passed = some leftTimeInNs :=
    Long.sub_eq_some_iff.mpr (by omega)
  have hpos : 0 ≤ leftTimeInNs.toInt := by omega
  have hdiv : Long.div leftTimeInNs secToNs = some left.tvSec :=
    (Long.div_eq_some_iff hpos (by decide)).mpr (by
      rw [hleftVal, secToNs_toInt, hleft.tvSec_eq])
  have hmod : Long.mod leftTimeInNs secToNs = some left.tvNsec :=
    (Long.mod_eq_some_iff hpos (by decide)).mpr (by
      rw [hleftVal, secToNs_toInt, hleft.tvNsec_eq])
  rw [calcTimeLeft, hsec]
  simp only [Option.bind_eq_bind, Option.bind_some, hadd, if_neg hlt, hsub, hdiv, hmod]
  rfl

/-- A time that is left may be too long for its nanoseconds. -/
theorem calcTimeLeft_overflow (hpassed : Countable pTimePassed)
    (hwithin : pTimePassed.toNs < maxTimeInNs.toInt)
    (hfits : ¬ Long.Fits (maxTimeInNs.toInt - pTimePassed.toNs)) :
    calcTimeLeft pTimePassed maxTimeInNs = none := by
  obtain ⟨sec, passed, hsec, hadd, hval⟩ := hpassed.exists_passedTimeInNs
  have hlt : ¬ passed ≥ maxTimeInNs :=
    Int64.not_le.mpr (Int64.lt_iff_toInt_lt.mpr (by omega))
  rw [← hval] at hfits
  rw [calcTimeLeft, hsec]
  simp only [Option.bind_eq_bind, Option.bind_some, hadd, if_neg hlt,
    Long.sub_eq_none_iff.mpr hfits, Option.bind_none]

end

/-- Only between the two ends of the range does the time left overflow. -/
theorem timeBudget_accounted_iff (pTimeStart pTimeEnd : Timespec) (maxTimeInNs : Int64)
    (hstart : pTimeStart.Normalised) (hend : pTimeEnd.Normalised)
    (hdiff : -2 ^ 62 ≤ pTimeEnd.toNs - pTimeStart.toNs ∧
      pTimeEnd.toNs - pTimeStart.toNs ≤ 2 ^ 62)
    (hmax : -2 ^ 62 ≤ maxTimeInNs.toInt ∧ maxTimeInNs.toInt ≤ 2 ^ 62) :
    Accounted pTimeStart pTimeEnd maxTimeInNs ↔
      ¬ (pTimeEnd.toNs - pTimeStart.toNs = -2 ^ 62 ∧ maxTimeInNs.toInt = 2 ^ 62) := by
  obtain ⟨d, hd, hdVal⟩ : ∃ d : Timespec, d.Normalised ∧
      d.toNs = pTimeEnd.toNs - pTimeStart.toNs :=
    exists_normalised (by unfold Long.Fits; omega)
  have hcount : Countable d := Countable.of_normalised hd (by omega) (by omega)
  have hcalc : calcTimeDiff pTimeStart pTimeEnd = some d :=
    calcTimeDiff_eq_some hstart hend hd hcount.total hdVal
  constructor
  · rintro ⟨d', result, hd', -, -, hleft, -⟩ ⟨hlow, hhigh⟩
    rw [hcalc] at hd'
    cases hd'
    have hnone : calcTimeLeft d maxTimeInNs = none :=
      calcTimeLeft_overflow hcount (by omega) (by unfold Long.Fits; omega)
    rw [hnone] at hleft
    cases hleft
  · intro hcorner
    by_cases hover : maxTimeInNs.toInt ≤ d.toNs
    · refine ⟨d, _, hcalc, hd, by omega, calcTimeLeft_over hcount hover, ?_, ?_⟩
      · exact ⟨fun _ => hover, fun _ => rfl⟩
      · intro hwithin
        omega
    · obtain ⟨left, hleft, hleftVal⟩ : ∃ l : Timespec, l.Normalised ∧
          l.toNs = maxTimeInNs.toInt - d.toNs :=
        exists_normalised (by unfold Long.Fits; omega)
      have hcalcLeft : calcTimeLeft d maxTimeInNs = some (0, left) :=
        calcTimeLeft_within hcount hleft (by omega) (by unfold Long.Fits; omega) (by omega)
      refine ⟨d, _, hcalc, hd, by omega, hcalcLeft, ?_, ?_⟩
      · constructor
        · intro h
          cases h
        · intro h
          exact absurd h hover
      · intro _
        exact ⟨rfl, hleft, by dsimp only; omega⟩

/-- A difference of minus a nanosecond, and a maximum of a second. -/
theorem timeBudget_accounted : Accounted ⟨2, 0⟩ ⟨1, 999999999⟩ 1000000000 :=
  (timeBudget_accounted_iff ⟨2, 0⟩ ⟨1, 999999999⟩ 1000000000 (by decide) (by decide) (by decide)
    (by decide)).mpr (by decide)

/-- 146 years before the start, with a maximum of 146 years, the time left overflows. -/
theorem timeBudget_overflow :
    (⟨4611686018, 427387904⟩ : Timespec).Normalised ∧ (⟨0, 0⟩ : Timespec).Normalised ∧
      (⟨0, 0⟩ : Timespec).toNs - (⟨4611686018, 427387904⟩ : Timespec).toNs = -2 ^ 62 ∧
      (4611686018427387904 : Int64).toInt = 2 ^ 62 ∧
      ¬ Accounted ⟨4611686018, 427387904⟩ ⟨0, 0⟩ 4611686018427387904 := by
  refine ⟨by decide, by decide, by decide, by decide, ?_⟩
  rintro ⟨d, result, hd, -, -, hleft, -⟩
  have hcalc : calcTimeDiff ⟨4611686018, 427387904⟩ ⟨0, 0⟩ =
      some ⟨-4611686019, 572612096⟩ := by decide
  have hnone : calcTimeLeft ⟨-4611686019, 572612096⟩ 4611686018427387904 = none := by decide
  rw [hcalc] at hd
  cases hd
  rw [hnone] at hleft
  cases hleft

end HexrotPxiCom.Utility
