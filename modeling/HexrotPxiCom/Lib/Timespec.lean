import HexrotPxiCom.Lib.Long

/-!
# Times in seconds and nanoseconds

`struct timespec` and `nanosleep`. No signal handler interrupts a sleep.
-/

namespace HexrotPxiCom

set_option autoImplicit false

structure Timespec where
  tvSec : Int64
  tvNsec : Int64
  deriving Repr, DecidableEq

namespace Timespec

def nsPerSec : Int := 1000000000

def toNs (t : Timespec) : Int := t.tvSec.toInt * nsPerSec + t.tvNsec.toInt

def Normalised (t : Timespec) : Prop := 0 ≤ t.tvNsec.toInt ∧ t.tvNsec.toInt < nsPerSec

/-- A time that `nanosleep` takes. -/
def Valid (t : Timespec) : Prop := 0 ≤ t.tvSec.toInt ∧ t.Normalised

instance (t : Timespec) : Decidable t.Normalised := inferInstanceAs (Decidable (_ ∧ _))

instance (t : Timespec) : Decidable t.Valid := inferInstanceAs (Decidable (_ ∧ _))

/-- How long the thread is suspended in nanoseconds, or `none` for the error `EINVAL`. -/
def nanosleep (rqtp : Timespec) : Option Int := if rqtp.Valid then some rqtp.toNs else none

theorem nanosleep_eq_some_iff {t : Timespec} {ns : Int} :
    nanosleep t = some ns ↔ t.Valid ∧ t.toNs = ns := by
  unfold nanosleep
  split <;> simp [*]

/-- The seconds of a normalised time are its nanoseconds rounded down. -/
theorem Normalised.tvSec_eq {t : Timespec} (h : t.Normalised) :
    t.tvSec.toInt = t.toNs / nsPerSec := by
  unfold Normalised nsPerSec at h
  unfold toNs nsPerSec
  omega

theorem Normalised.tvNsec_eq {t : Timespec} (h : t.Normalised) :
    t.tvNsec.toInt = t.toNs % nsPerSec := by
  unfold Normalised nsPerSec at h
  unfold toNs nsPerSec
  omega

theorem exists_normalised {ns : Int} (h : Long.Fits ns) :
    ∃ t : Timespec, t.Normalised ∧ t.toNs = ns := by
  unfold Long.Fits at h
  obtain ⟨sec, hsec⟩ := Long.exists_toInt (z := ns / nsPerSec) (by
    unfold Long.Fits nsPerSec
    omega)
  obtain ⟨nsec, hnsec⟩ := Long.exists_toInt (z := ns % nsPerSec) (by
    unfold Long.Fits nsPerSec
    omega)
  refine ⟨⟨sec, nsec⟩, ?_, ?_⟩
  · unfold Normalised
    rw [hnsec]
    exact ⟨Int.emod_nonneg _ (by decide), Int.emod_lt_of_pos _ (by decide)⟩
  · rw [toNs, hsec, hnsec]
    exact Int.ediv_mul_add_emod ns nsPerSec

end Timespec

end HexrotPxiCom
