import HexrotPxiCom.Lib.Loop
import Mathlib.Data.Int.Order.Basic
import Mathlib.Data.UInt
import Mathlib.Tactic.Ring

/-!
# Waiting for the leap seconds

`waitNtpLeapSeconds` with clocks whose answers may change while it sleeps.
-/

namespace HexrotPxiCom.Utility

set_option autoImplicit false

/-- The `tv_sec` that `clock_gettime` gives some seconds after the start, unless it fails. -/
structure Clocks where
  tai : Nat → Option Int64
  realtime : Nat → Option Int64

def getLeapSeconds (clocks : Clocks) (time : Nat) : Int :=
  match clocks.tai time with
  | none => -1
  | some tai =>
    match clocks.realtime time with
    | none => -1
    | some host => (tai - host).toInt32.toInt

/-- The locals of `waitNtpLeapSeconds`, and the number of sleeps. -/
structure Wait where
  timeout : Int
  leapSeconds : Int
  sleeps : Nat
  deriving Repr, DecidableEq

/-- The value that is returned, after so many sleeps. -/
structure Waited where
  ret : Int
  sleeps : Nat
  deriving Repr, DecidableEq

/-- One turn of the loop. -/
def waitTurn (checkInterval : Int) (s : Wait) : Wait ⊕ Waited :=
  if 0 < s.timeout ∧ s.leapSeconds ≤ 0 then
    if s.leapSeconds < 0 then .inr ⟨-1, s.sleeps⟩
    else .inl { s with timeout := s.timeout - checkInterval, sleeps := s.sleeps + 1 }
  else .inr ⟨if 0 < s.leapSeconds then s.leapSeconds else -1, s.sleeps⟩

/-- The loop with at most `fuel` turns. -/
def waitNtpLeapSeconds (clocks : Clocks) (timeout checkInterval : Int) (fuel : Nat) :
    Option Waited :=
  loop (waitTurn checkInterval) fuel ⟨timeout, getLeapSeconds clocks 0, 0⟩

section
variable (clocks : Clocks) (timeout checkInterval : Int)

/-- What there is to read at the `k`-th check. -/
def reading (k : Nat) : Int := getLeapSeconds clocks (k * checkInterval.toNat)

/-- The `k`-th check comes before the timeout, and the checks before it read 0. -/
def Waiting (k : Nat) : Prop :=
  k * checkInterval < timeout ∧ ∀ j < k, reading clocks checkInterval j = 0

/-- What the header says of `waitNtpLeapSeconds`. -/
structure ChecksEveryInterval (w : Waited) : Prop where
  synchronised : ∀ k, Waiting clocks timeout checkInterval k →
    0 < reading clocks checkInterval k → w.ret = reading clocks checkInterval k
  never : (∀ k, Waiting clocks timeout checkInterval k → reading clocks checkInterval k ≤ 0) →
    w.ret = -1
  sleeps : w.sleeps ≤ (timeout + checkInterval - 1) / checkInterval

/-- In the loop, after `sleeps` turns. -/
structure Sleeping (s : Wait) : Prop where
  left : s.timeout = timeout - s.sleeps * checkInterval
  read : s.leapSeconds = getLeapSeconds clocks 0
  sleeps : s.sleeps ≤ (timeout + checkInterval - 1) / checkInterval

end

section
variable {clocks : Clocks} {timeout checkInterval : Int} {s t : Wait} {w : Waited}

theorem Sleeping.initial (htimeout : 0 < timeout) (hinterval : 0 < checkInterval) :
    Sleeping clocks timeout checkInterval ⟨timeout, getLeapSeconds clocks 0, 0⟩ where
  left := by simp
  read := rfl
  sleeps := Int.ediv_nonneg (by omega) (by omega)

theorem waitTurn_cases (checkInterval : Int) (s : Wait) :
    (0 < s.timeout ∧ s.leapSeconds = 0 ∧ waitTurn checkInterval s =
      .inl { s with timeout := s.timeout - checkInterval, sleeps := s.sleeps + 1 }) ∨
    waitTurn checkInterval s =
      .inr ⟨if 0 < s.leapSeconds then s.leapSeconds else -1, s.sleeps⟩ := by
  unfold waitTurn
  by_cases hloop : 0 < s.timeout ∧ s.leapSeconds ≤ 0
  · rw [if_pos hloop]
    by_cases hfailed : s.leapSeconds < 0
    · rw [if_pos hfailed, if_neg (by omega)]
      exact Or.inr rfl
    · rw [if_neg hfailed]
      exact Or.inl ⟨hloop.1, by omega, rfl⟩
  · rw [if_neg hloop]
    exact Or.inr rfl

theorem Sleeping.next (hs : Sleeping clocks timeout checkInterval s)
    (hinterval : 0 < checkInterval) (hturn : waitTurn checkInterval s = .inl t) :
    Sleeping clocks timeout checkInterval t ∧ t.timeout.toNat < s.timeout.toNat := by
  rcases waitTurn_cases checkInterval s with ⟨hpos, -, h⟩ | h
  · rw [h] at hturn
    cases hturn
    have hleft := hs.left
    refine ⟨⟨?_, hs.read, ?_⟩, by dsimp only; omega⟩
    · dsimp only
      rw [hleft]
      push_cast
      ring
    · apply (Int.le_ediv_iff_mul_le hinterval).mpr
      push_cast
      rw [Int.add_mul]
      omega
  · rw [h] at hturn
    cases hturn

/-- What the leap seconds were at the start is what is returned. -/
theorem Sleeping.done (hs : Sleeping clocks timeout checkInterval s)
    (hturn : waitTurn checkInterval s = .inr w) :
    w.ret = (if 0 < getLeapSeconds clocks 0 then getLeapSeconds clocks 0 else -1) ∧
      w.sleeps ≤ (timeout + checkInterval - 1) / checkInterval := by
  rcases waitTurn_cases checkInterval s with ⟨-, -, h⟩ | h
  · rw [h] at hturn
    cases hturn
  · rw [h] at hturn
    cases hturn
    rw [← hs.read]
    exact ⟨rfl, hs.sleeps⟩

/-- The loop ends, and its result is the first reading or -1. -/
theorem waitNtpLeapSeconds_returns (clocks : Clocks) (htimeout : 0 < timeout)
    (hinterval : 0 < checkInterval) :
    ∃ w, Loop.Returns (waitTurn checkInterval) ⟨timeout, getLeapSeconds clocks 0, 0⟩ w ∧
      w.ret = (if 0 < getLeapSeconds clocks 0 then getLeapSeconds clocks 0 else -1) ∧
      w.sleeps ≤ (timeout + checkInterval - 1) / checkInterval :=
  Loop.returns_of_measure (fun s => s.timeout.toNat)
    (fun _ _ hs hturn => Sleeping.next hs hinterval hturn)
    (fun _ _ hs hturn => Sleeping.done hs hturn) (Sleeping.initial htimeout hinterval)

theorem reading_zero : reading clocks checkInterval 0 = getLeapSeconds clocks 0 := by
  rw [reading, Nat.zero_mul]

theorem Waiting.zero (htimeout : 0 < timeout) : Waiting clocks timeout checkInterval 0 :=
  ⟨by simpa, fun _ hj => absurd hj (Nat.not_lt_zero _)⟩

/-- A first reading other than 0 is the only one to wait for. -/
theorem Waiting.eq_zero {k : Nat} (h : Waiting clocks timeout checkInterval k)
    (hfirst : getLeapSeconds clocks 0 ≠ 0) : k = 0 := by
  by_contra hk
  apply hfirst
  rw [← @reading_zero clocks checkInterval]
  exact h.2 0 (Nat.pos_of_ne_zero hk)

/-- After a first reading of 0, a later one is not noticed. -/
theorem waitNtpLeapSeconds_missed {k : Nat} (htimeout : 0 < timeout)
    (hinterval : 0 < checkInterval) (hfirst : getLeapSeconds clocks 0 = 0)
    (hk : Waiting clocks timeout checkInterval k) (hpos : 0 < reading clocks checkInterval k) :
    ¬ ∃ fuel w, waitNtpLeapSeconds clocks timeout checkInterval fuel = some w ∧
      ChecksEveryInterval clocks timeout checkInterval w := by
  rintro ⟨fuel, w, hw, hmeets⟩
  obtain ⟨w', hw', hret, -⟩ := waitNtpLeapSeconds_returns clocks htimeout hinterval
  have hsame : w = w' := Loop.Returns.unique ⟨fuel, hw⟩ hw'
  have hread := hmeets.synchronised k hk hpos
  rw [hsame, hret, hfirst, if_neg (Int.lt_irrefl 0)] at hread
  omega

end

/-- The leap seconds are read once: the readings of the later checks must not matter. -/
theorem waitNtpLeapSeconds_checks_iff (clocks : Clocks) (timeout checkInterval : Int)
    (htimeout : 0 < timeout) (hinterval : 0 < checkInterval) :
    (∃ fuel w, waitNtpLeapSeconds clocks timeout checkInterval fuel = some w ∧
      ChecksEveryInterval clocks timeout checkInterval w) ↔
      getLeapSeconds clocks 0 ≠ 0 ∨
        ∀ k, Waiting clocks timeout checkInterval k → reading clocks checkInterval k ≤ 0 := by
  constructor
  · intro hmeets
    by_cases hfirst : getLeapSeconds clocks 0 = 0
    · refine Or.inr ?_
      intro k hk
      by_contra hpos
      exact waitNtpLeapSeconds_missed htimeout hinterval hfirst hk (by omega) hmeets
    · exact Or.inl hfirst
  · intro hcond
    obtain ⟨w, ⟨fuel, hfuel⟩, hret, hsleeps⟩ :=
      waitNtpLeapSeconds_returns clocks htimeout hinterval
    refine ⟨fuel, w, hfuel, ?_, ?_, hsleeps⟩
    · intro k hk hpos
      obtain hfirst | hnever := hcond
      · have hk0 := hk.eq_zero hfirst
        subst hk0
        rw [reading_zero] at hpos ⊢
        rw [hret, if_pos hpos]
      · have hle := hnever k hk
        omega
    · intro hnever
      have hzero := hnever 0 (Waiting.zero htimeout)
      rw [reading_zero] at hzero
      rw [hret, if_neg (by omega)]

/-- TAI is set by NTP two seconds after the start. -/
def lateClocks : Clocks where
  tai := fun time => some (if time < 2 then 1000 else 1037)
  realtime := fun _ => some 1000

/-- TAI is right from the start. -/
def setClocks : Clocks where
  tai := fun _ => some 1037
  realtime := fun _ => some 1000

theorem setClocks_zero : getLeapSeconds setClocks 0 = 37 := by decide

theorem waitNtpLeapSeconds_set : ∃ fuel w, waitNtpLeapSeconds setClocks 5 2 fuel = some w ∧
    ChecksEveryInterval setClocks 5 2 w :=
  (waitNtpLeapSeconds_checks_iff setClocks 5 2 (by decide) (by decide)).mpr
    (Or.inl (by rw [setClocks_zero]; decide))

/-- The leap seconds are there at the second check of three, and the wait fails. -/
theorem waitNtpLeapSeconds_late : getLeapSeconds lateClocks 0 = 0 ∧ reading lateClocks 2 1 = 37 ∧
    waitNtpLeapSeconds lateClocks 5 2 4 = some ⟨-1, 3⟩ ∧
    ¬ ∃ fuel w, waitNtpLeapSeconds lateClocks 5 2 fuel = some w ∧
      ChecksEveryInterval lateClocks 5 2 w := by
  have hfirst : getLeapSeconds lateClocks 0 = 0 := by decide
  have hlater : reading lateClocks 2 1 = 37 := by decide
  refine ⟨hfirst, hlater, by decide, ?_⟩
  have hk : Waiting lateClocks 5 2 1 := by
    refine ⟨by decide, ?_⟩
    intro j hj
    rw [Nat.lt_one_iff.mp hj]
    exact hfirst
  exact waitNtpLeapSeconds_missed (by decide) (by decide) hfirst hk (by rw [hlater]; decide)

end HexrotPxiCom.Utility
