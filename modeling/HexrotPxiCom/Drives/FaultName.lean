import HexrotPxiCom.Lib.CString
import Mathlib.Data.Vector.Basic
import Mathlib.Tactic.IntervalCases

/-!
# Fault names

`driveTool_getFaultName` and the buffer of its caller.
-/

namespace HexrotPxiCom.DriveTool

set_option autoImplicit false

/-- The error codes of the drives. -/
inductive ErrorCode where
  | shortCircuit
  | ampOverTemp
  | ampOverVoltage
  | ampUnderVoltage
  | motorOverTemp
  | feedbackError
  | phasingError
  | currentLimit
  | voltageLimit
  | positivePositionLimit
  | negativePositionLimit
  | trackingError
  | positionWrap
  | faultsWithNoOtherEmergency
  | nodeGuardingError
  | commandError
  | stoFault
  deriving Repr, DecidableEq

def ErrorCode.value : ErrorCode → UInt16
  | .shortCircuit => 0x2320
  | .ampOverTemp => 0x4210
  | .ampOverVoltage => 0x3110
  | .ampUnderVoltage => 0x3120
  | .motorOverTemp => 0x4300
  | .feedbackError => 0x2280
  | .phasingError => 0x7122
  | .currentLimit => 0x2310
  | .voltageLimit => 0x3310
  | .positivePositionLimit => 0x7380
  | .negativePositionLimit => 0x7381
  | .trackingError => 0x7390
  | .positionWrap => 0x73A0
  | .faultsWithNoOtherEmergency => 0x5080
  | .nodeGuardingError => 0x8130
  | .commandError => 0x61FF
  | .stoFault => 0x5440

/-- The cases of the `switch`. -/
def errors : List (UInt16 × String) :=
  [(0x0, "no error"),
    (ErrorCode.shortCircuit.value, "short circuit"),
    (ErrorCode.ampOverTemp.value, "amp overtemp"),
    (ErrorCode.ampOverVoltage.value, "amp overvoltage"),
    (ErrorCode.ampUnderVoltage.value, "amp undervoltage"),
    (ErrorCode.motorOverTemp.value, "motor overtemp"),
    (ErrorCode.feedbackError.value, "feedback error"),
    (ErrorCode.phasingError.value, "phasing error"),
    (ErrorCode.currentLimit.value, "current limit"),
    (ErrorCode.voltageLimit.value, "voltage limit"),
    (ErrorCode.positivePositionLimit.value, "- limit switch"),
    (ErrorCode.negativePositionLimit.value, "+ limit switch"),
    (ErrorCode.trackingError.value, "position tracking"),
    (ErrorCode.positionWrap.value, "position wrap"),
    (ErrorCode.faultsWithNoOtherEmergency.value, "generic fault"),
    (ErrorCode.nodeGuardingError.value, "node guarding error"),
    (ErrorCode.commandError.value, "command error"),
    (ErrorCode.stoFault.value, "interlock open")]

/-- `"unknown code 0x%x"`. -/
def unknownCode (code : UInt16) : List UInt8 :=
  CString.ascii ("unknown code 0x".toList ++ Nat.toDigits 16 code.toNat)

/-- `snprintf` to an array of `n` zeros. -/
def snprintf (n : Nat) (s : List UInt8) : List UInt8 :=
  CString.store (s.take (n - 1) ++ [0]) (List.replicate n 0)

/-- The memory that the name is copied from. -/
def error (code : UInt16) : List UInt8 :=
  match errors.lookup code with
  | some error => CString.ascii error.toList
  | none => snprintf 30 (unknownCode code)

/-- The bytes that are written from `pName` on; `len - 1` is a `size_t`. -/
def getFaultName (code : UInt16) (len : UInt64) : List UInt8 :=
  CString.strncpy (len - 1).toNat (error code)

/-- The name of a fault. -/
def faultName (code : UInt16) : List UInt8 :=
  match errors.lookup code with
  | some error => CString.ascii error.toList
  | none => unknownCode code

section
variable {code : UInt16}

theorem digitChar_ascii {d : Nat} (hd : d < 16) : (Nat.digitChar d).toNat.toUInt8 ≠ 0 := by
  interval_cases d <;> decide

theorem hex_ne_nul {n : Nat} {c : Char} (hc : c ∈ Nat.toDigits 16 n) : c.toNat.toUInt8 ≠ 0 := by
  induction n using Nat.strongRecOn with
  | ind n ih =>
    rw [Nat.toDigits_eq_if (by decide)] at hc
    by_cases hn : n < 16
    · rw [if_pos hn] at hc
      rw [List.mem_singleton.mp hc]
      exact digitChar_ascii hn
    · rw [if_neg hn] at hc
      rcases List.mem_append.mp hc with hc | hc
      · exact ih (n / 16) (by omega) hc
      · rw [List.mem_singleton.mp hc]
        exact digitChar_ascii (by omega)

theorem nul_notMem_unknownCode (code : UInt16) : 0 ∉ unknownCode code := by
  have htext : ("unknown code 0x".toList.all fun c => c.toNat.toUInt8 != 0) = true := by decide
  apply CString.nul_notMem_ascii
  intro c hc
  rcases List.mem_append.mp hc with hc | hc
  · exact bne_iff_ne.mp (List.all_eq_true.mp htext c hc)
  · exact hex_ne_nul hc

theorem length_unknownCode_le (code : UInt16) : (unknownCode code).length ≤ 19 := by
  have hdigits : (Nat.toDigits 16 code.toNat).length ≤ 4 :=
    (Nat.length_toDigits_le_iff (by decide) (by decide)).mpr code.toNat_lt
  have htext : "unknown code 0x".toList.length = 15 := by decide
  rw [unknownCode, CString.ascii, List.length_map, List.length_append, htext]
  omega

theorem nul_notMem_errors : ∀ e ∈ errors, 0 ∉ CString.ascii e.2.toList := by decide

theorem nul_notMem_faultName (code : UInt16) : 0 ∉ faultName code := by
  unfold faultName
  split
  · rename_i error herror
    obtain ⟨l, r, heq, -⟩ := List.lookup_eq_some_iff.mp herror
    exact nul_notMem_errors (code, error) (heq ▸ List.mem_append_right l List.mem_cons_self)
  · exact nul_notMem_unknownCode code

/-- `errorUnknown` has room for every name. -/
theorem text_snprintf (code : UInt16) :
    CString.text (snprintf 30 (unknownCode code)) = unknownCode code := by
  have hlength := length_unknownCode_le code
  rw [snprintf, CString.store, List.take_of_length_le (by omega), List.append_assoc,
    List.singleton_append]
  exact CString.text_append_nul (nul_notMem_unknownCode code) _

theorem text_error (code : UInt16) : CString.text (error code) = faultName code := by
  have hnul := nul_notMem_faultName code
  unfold error faultName at *
  split
  · rename_i error herror
    rw [herror] at hnul
    exact (CString.text_eq_self_iff _).mpr hnul
  · exact text_snprintf code

theorem getFaultName_eq (code : UInt16) (len : UInt64) :
    getFaultName code len = CString.strncpy (len - 1).toNat (faultName code) := by
  rw [getFaultName, ← text_error, CString.strncpy_text]

end

/-- What the header says: at most `len` bytes are written, and the name is cut to `len - 1`
characters with a NUL behind them. -/
def NamesFault (code : UInt16) (len : UInt64) (buffer : Vector UInt8 len.toNat) : Prop :=
  (getFaultName code len).length ≤ len.toNat ∧
    (1 ≤ len.toNat →
      0 ∈ CString.store (getFaultName code len) buffer.toList ∧
      CString.text (CString.store (getFaultName code len) buffer.toList) =
        (faultName code).take (len.toNat - 1))

/-- For a buffer of no bytes, `len - 1` is the largest `size_t`. -/
theorem not_namesFault_zero (code : UInt16) (buffer : Vector UInt8 (0 : UInt64).toNat) :
    ¬ NamesFault code 0 buffer := by
  rintro ⟨hinside, -⟩
  rw [getFaultName_eq, CString.length_strncpy] at hinside
  exact absurd hinside (by decide)

/-- The last byte of the buffer is never written. -/
theorem getFaultName_namesFault_iff (code : UInt16) (len : UInt64)
    (buffer : Vector UInt8 len.toNat) :
    NamesFault code len buffer ↔
      1 ≤ len.toNat ∧
        ((faultName code).length + 1 < len.toNat ∨ buffer.toList.getLast? = some 0) := by
  by_cases hlen : len = 0
  · subst hlen
    constructor
    · intro hnames
      exact absurd hnames (not_namesFault_zero code buffer)
    · rintro ⟨hpos, -⟩
      exact absurd hpos (by decide)
  · have hpos : 1 ≤ len.toNat := by
      have hne : len.toNat ≠ 0 := fun h => hlen (UInt64.toNat_inj.mp h)
      omega
    have hwritten : (len - 1).toNat = len.toNat - 1 := UInt64.toNat_sub_of_le len 1 hpos
    have hbuffer : buffer.toList.length = len.toNat := Vector.length_toList
    have hne : buffer.toList ≠ [] := List.ne_nil_of_length_pos (by omega)
    obtain ⟨init, last, hsplit⟩ : ∃ init last, buffer.toList = init ++ [last] :=
      ⟨_, _, (List.dropLast_append_getLast hne).symm⟩
    have hinit : init.length = len.toNat - 1 := by
      rw [hsplit, List.length_append, List.length_singleton] at hbuffer
      omega
    unfold NamesFault
    rw [getFaultName_eq, CString.length_strncpy, hwritten, hsplit, ← hinit,
      List.getLast?_concat, Option.some.injEq]
    have hiff := @CString.strncpy_store_iff _ init last (nul_notMem_faultName code)
    constructor
    · rintro ⟨-, hnames⟩
      refine ⟨hpos, ?_⟩
      obtain hshort | hlast := hiff.mp (hnames hpos)
      · exact Or.inl (by omega)
      · exact Or.inr hlast
    · rintro ⟨-, hcond⟩
      refine ⟨by omega, fun _ => hiff.mpr ?_⟩
      obtain hshort | hlast := hcond
      · exact Or.inl (by omega)
      · exact Or.inr hlast

/-- Four bytes of a buffer that was not cleared get no NUL behind `sho`. -/
theorem getFaultName_unterminated : ErrorCode.shortCircuit.value = 0x2320 ∧
    CString.store (getFaultName 0x2320 4) [120, 120, 120, 120] =
      CString.ascii "sho".toList ++ [120] ∧
    ¬ NamesFault 0x2320 4 #v[120, 120, 120, 120] := by
  refine ⟨rfl, by decide, ?_⟩
  rintro ⟨-, hnames⟩
  exact absurd (hnames (by decide)).1 (by decide)

end HexrotPxiCom.DriveTool
