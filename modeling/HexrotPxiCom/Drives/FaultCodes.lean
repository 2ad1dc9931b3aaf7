import HexrotPxiCom.Drives.FaultName
import HexrotPxiCom.Lib.Numerals

/-!
# Telling faults apart by their names

A fault is logged by the name that `driveTool_getFaultName` puts into a cleared buffer. The name
tells the code as long as the buffer does not cut the hexadecimal digits of an unknown one.
-/

namespace HexrotPxiCom.DriveTool

set_option autoImplicit false

/-- The string in a cleared buffer of `len` bytes. -/
def namedIn (len : UInt64) (code : UInt16) : List UInt8 :=
  CString.text (CString.store (getFaultName code len) (List.replicate len.toNat 0))

section
variable {code code' : UInt16}

theorem errors_injective : ∀ e ∈ errors, ∀ e' ∈ errors,
    CString.ascii e.2.toList = CString.ascii e'.2.toList → e.1 = e'.1 := by
  decide +kernel

/-- No name of a known code begins as those of the unknown ones do. -/
theorem errors_known : ∀ e ∈ errors, (CString.ascii e.2.toList).take 3 ≠
    CString.ascii "unk".toList := by
  decide +kernel

theorem unknownCode_eq (code : UInt16) : unknownCode code =
    CString.ascii "unknown code 0x".toList ++ CString.ascii (Nat.toDigits 16 code.toNat) := by
  rw [unknownCode, CString.ascii, List.map_append]
  rfl

theorem unknownCode_take (code : UInt16) :
    (unknownCode code).take 3 = CString.ascii "unk".toList := by
  have htext : CString.ascii "unknown code 0x".toList =
      CString.ascii "unk".toList ++ CString.ascii "nown code 0x".toList := by decide
  rw [unknownCode_eq, htext, List.append_assoc]
  exact List.take_left' rfl

theorem unknownCode_injective (h : unknownCode code = unknownCode code') : code = code' := by
  rw [unknownCode_eq, unknownCode_eq] at h
  have hdigits := List.append_cancel_left h
  exact UInt16.toNat_inj.mp
    (Numerals.ascii_toDigits_injective (by decide) (by decide) hdigits)

theorem mem_errors_of_lookup {error : String} (h : errors.lookup code = some error) :
    (code, error) ∈ errors := by
  obtain ⟨l, r, heq, -⟩ := List.lookup_eq_some_iff.mp h
  rw [heq]
  exact List.mem_append_right l List.mem_cons_self

theorem faultName_injective (h : faultName code = faultName code') : code = code' := by
  unfold faultName at h
  cases hknown : errors.lookup code with
  | some error =>
    rw [hknown] at h
    have hmem := mem_errors_of_lookup hknown
    cases hknown' : errors.lookup code' with
    | some error' =>
      rw [hknown'] at h
      exact errors_injective _ hmem _ (mem_errors_of_lookup hknown') h
    | none =>
      rw [hknown'] at h
      exact absurd ((congrArg (List.take 3) h).trans (unknownCode_take code'))
        (errors_known _ hmem)
  | none =>
    rw [hknown] at h
    cases hknown' : errors.lookup code' with
    | some error' =>
      rw [hknown'] at h
      exact absurd ((congrArg (List.take 3) h.symm).trans (unknownCode_take code))
        (errors_known _ (mem_errors_of_lookup hknown'))
    | none =>
      rw [hknown'] at h
      exact unknownCode_injective h

theorem length_errors_le : ∀ e ∈ errors, (CString.ascii e.2.toList).length ≤ 19 := by
  decide +kernel

theorem length_faultName_le (code : UInt16) : (faultName code).length ≤ 19 := by
  unfold faultName
  cases hknown : errors.lookup code with
  | some error => exact length_errors_le _ (mem_errors_of_lookup hknown)
  | none => exact length_unknownCode_le code

theorem namedIn_eq {len : UInt64} (hlen : 1 ≤ len.toNat) (code : UInt16) :
    namedIn len code = (faultName code).take (len.toNat - 1) := by
  have hwritten : (len - 1).toNat = len.toNat - 1 := UInt64.toNat_sub_of_le len 1 hlen
  have hbuffer : List.replicate len.toNat (0 : UInt8) =
      List.replicate (len.toNat - 1) 0 ++ [0] := by
    rw [← List.replicate_succ', Nat.sub_add_cancel hlen]
  have hcleared := (@CString.strncpy_store_iff _ (List.replicate (len.toNat - 1) 0) 0
    (nul_notMem_faultName code)).mpr (Or.inr rfl)
  rw [List.length_replicate] at hcleared
  rw [namedIn, getFaultName_eq, hwritten, hbuffer]
  exact hcleared.2

end

/-- Twenty bytes are enough to tell all codes apart, and no fewer are. -/
theorem namedIn_injective_iff {len : UInt64} (hlen : 1 ≤ len.toNat) :
    (∀ code code', namedIn len code = namedIn len code' → code = code') ↔ 20 ≤ len.toNat := by
  constructor
  · intro hinj
    by_contra hshort
    -- the last digits of these two are cut
    have hcut : (faultName 0x1000).take 18 = (faultName 0x1001).take 18 := by decide +kernel
    have hsame : namedIn len 0x1000 = namedIn len 0x1001 := by
      have hmin : len.toNat - 1 = min (len.toNat - 1) 18 := by omega
      rw [namedIn_eq hlen, namedIn_eq hlen, hmin, ← List.take_take, ← List.take_take, hcut]
    exact absurd (hinj 0x1000 0x1001 hsame) (by decide)
  · intro hroom code code' h
    have hlength := length_faultName_le code
    have hlength' := length_faultName_le code'
    rw [namedIn_eq hlen, namedIn_eq hlen, List.take_of_length_le (by omega),
      List.take_of_length_le (by omega)] at h
    exact faultName_injective h

theorem namedIn_injective_twenty :
    (∀ code code', namedIn 20 code = namedIn 20 code' → code = code') ↔
      20 ≤ (20 : UInt64).toNat :=
  namedIn_injective_iff (by decide)

end HexrotPxiCom.DriveTool
