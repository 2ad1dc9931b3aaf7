import Mathlib.Data.UInt
import Mathlib.Data.List.Basic

/-!
# The DS402 states and commands

The status word of `ds402.h`, and the command by which `driveTool_nextCommandToGoalState` brings
a drive nearer to a state.
-/

namespace HexrotPxiCom.DriveTool

set_option autoImplicit false

/-- `enum ds402_state`. -/
inductive Ds402State where
  | start
  | notReadyToSwitchOn
  | switchOnDisabled
  | readyToSwitchOn
  | switchedOn
  | operationEnabled
  | quickStopActive
  | faultReactionActive
  | fault
  deriving Repr, DecidableEq

/-- `ds402_status_word`. -/
structure Ds402StatusWord where
  val : UInt16
  deriving Repr, DecidableEq

namespace Ds402StatusWord

/-- The bit fields stand in `val` from its lowest bit on. -/
def fault (statusWord : Ds402StatusWord) : Bool := statusWord.val &&& 0x8 != 0

def switchOnDisabled (statusWord : Ds402StatusWord) : Bool := statusWord.val &&& 0x40 != 0

end Ds402StatusWord

/-- `ds402_status_to_state`, without a value where its `assert` fails. -/
def ds402StatusToState (statusWord : Ds402StatusWord) : Option Ds402State :=
  if statusWord.val &&& 0xf = 0xf then some .faultReactionActive
  else if statusWord.fault then some .fault
  else if statusWord.val &&& 0x6f = 0x7 then some .quickStopActive
  else if statusWord.switchOnDisabled then some .switchOnDisabled
  else
    match statusWord.val &&& 0x4f with
    | 0 => some .notReadyToSwitchOn
    | 0x1 => some .readyToSwitchOn
    | 0x2 | 0x3 => some .switchedOn
    | 0x4 | 0x5 | 0x6 | 0x7 => some .operationEnabled
    | _ => none

namespace Ds402Command

def noChange : Int := 0x0
def shutdown : Int := 0x6
def switchOn : Int := 0x7
def disableVoltage : Int := 0x4
def quickStop : Int := 0xB
def disableOperation : Int := 0x7
def enableOperation : Int := 0xF
def resetFault : Int := 0x80

end Ds402Command

open Ds402Command

/-- The loop of `driveTool_areTargetState`; a read behind the array has no value. -/
def areTargetStateLoop (targetState : Ds402State) : Nat → List Ds402State → Option Bool
  | 0, _ => some true
  | _ + 1, [] => none
  | n + 1, state :: states =>
    if state ≠ targetState then some false else areTargetStateLoop targetState n states

def areTargetState (states : List Ds402State) (nStates : Int) (targetState : Ds402State) :
    Option Bool :=
  areTargetStateLoop targetState nStates.toNat states

def areOperationEnabled (states : List Ds402State) (nStates : Int) : Option Bool :=
  areTargetState states nStates .operationEnabled

def areSwitchOnDisabled (states : List Ds402State) (nStates : Int) : Option Bool :=
  areTargetState states nStates .switchOnDisabled

def nextCommandFromDisabled (goalState : Ds402State) : Int :=
  match goalState with
  | .switchOnDisabled => disableVoltage
  | .readyToSwitchOn | .switchedOn | .operationEnabled => shutdown
  | _ => shutdown

def nextCommandFromReadyToSwitchOn (goalState : Ds402State) : Int :=
  match goalState with
  | .switchOnDisabled => disableVoltage
  | .readyToSwitchOn => shutdown
  | .switchedOn | .operationEnabled => switchOn
  | _ => shutdown

def nextCommandFromSwitchedOn (goalState : Ds402State) : Int :=
  match goalState with
  | .switchOnDisabled | .readyToSwitchOn => shutdown
  | .switchedOn => switchOn
  | .operationEnabled => enableOperation
  | _ => shutdown

def nextCommandFromEnabled (goalState : Ds402State) : Int :=
  match goalState with
  | .switchOnDisabled | .readyToSwitchOn => shutdown
  | .switchedOn => disableOperation
  | .operationEnabled => enableOperation
  | _ => shutdown

def nextCommandFromFault (goalState : Ds402State) : Int :=
  match goalState with
  | .fault => shutdown
  | .switchOnDisabled => resetFault
  | _ => noChange

def nextCommandToGoalState (stateCurrent stateGoal : Ds402State) : Int :=
  match stateCurrent with
  | .switchOnDisabled => nextCommandFromDisabled stateGoal
  | .readyToSwitchOn => nextCommandFromReadyToSwitchOn stateGoal
  | .switchedOn => nextCommandFromSwitchedOn stateGoal
  | .operationEnabled => nextCommandFromEnabled stateGoal
  | .fault | .faultReactionActive => nextCommandFromFault stateGoal
  | .quickStopActive => noChange
  | _ => -1

section
variable (states : List Ds402State) (targetState : Ds402State)

theorem areTargetStateLoop_append (rest : List Ds402State) :
    areTargetStateLoop targetState states.length (states ++ rest) =
      some (decide (∀ state ∈ states, state = targetState)) := by
  induction states with
  | nil => simp [areTargetStateLoop]
  | cons state states ih =>
    rw [List.length_cons, List.cons_append, areTargetStateLoop, ih]
    by_cases hstate : state = targetState
    · simp [hstate]
    · simp [hstate]

/-- The whole array is asked for. -/
theorem areTargetState_length :
    areTargetState states states.length targetState =
      some (decide (∀ state ∈ states, state = targetState)) := by
  have h := areTargetStateLoop_append states targetState []
  rw [List.append_nil] at h
  exact h

end

/-- What the standard has drives report: the bits of the status word that tell the state, and
their values. -/
def Ds402State.pattern : Ds402State → Option (UInt16 × UInt16)
  | .start => none
  | .notReadyToSwitchOn => some (0x4f, 0x00)
  | .switchOnDisabled => some (0x4f, 0x40)
  | .readyToSwitchOn => some (0x6f, 0x21)
  | .switchedOn => some (0x6f, 0x23)
  | .operationEnabled => some (0x6f, 0x27)
  | .quickStopActive => some (0x6f, 0x07)
  | .faultReactionActive => some (0x4f, 0x0f)
  | .fault => some (0x4f, 0x08)

section
variable (v : UInt16)

theorem and_and_mask (m : UInt16) (h : 0x6f &&& m = m) : v &&& 0x6f &&& m = v &&& m := by
  rw [UInt16.and_assoc, h]

/-- Voltage, warning and the upper bits are not looked at. -/
theorem ds402StatusToState_mask :
    ds402StatusToState ⟨v &&& 0x6f⟩ = ds402StatusToState ⟨v⟩ := by
  unfold ds402StatusToState Ds402StatusWord.fault Ds402StatusWord.switchOnDisabled
  rw [and_and_mask v 0xf (by decide), and_and_mask v 0x8 (by decide),
    and_and_mask v 0x6f (by decide), and_and_mask v 0x40 (by decide),
    and_and_mask v 0x4f (by decide)]

theorem and_mask_toNat_lt : (v &&& 0x6f).toNat < 112 := by
  have hle : (v &&& 0x6f).toNat ≤ (0x6f : UInt16).toNat := by
    rw [UInt16.toNat_and]
    exact Nat.and_le_right
  have hmask : (0x6f : UInt16).toNat = 111 := rfl
  omega

/-- It is enough to look at the values of the bits that the state is made of. -/
theorem forall_masked {P : UInt16 → Prop} (h : ∀ n < 112, P (UInt16.ofNat n)) :
    P (v &&& 0x6f) := by
  have hw := h (v &&& 0x6f).toNat (and_mask_toNat_lt v)
  rw [UInt16.ofNat_toNat] at hw
  exact hw

theorem ds402StatusToState_isSome : (ds402StatusToState ⟨v⟩).isSome := by
  rw [← ds402StatusToState_mask]
  exact forall_masked v (P := fun w => (ds402StatusToState ⟨w⟩).isSome) (by decide +kernel)

theorem pattern_mask {state : Ds402State} {mask value : UInt16}
    (h : state.pattern = some (mask, value)) : 0x6f &&& mask = mask := by
  cases state with
  | start => cases h
  | _ =>
    cases h
    decide

/-- A status word that has the pattern of a state is read as that state. -/
theorem ds402StatusToState_pattern {state : Ds402State} {mask value : UInt16}
    (h : state.pattern = some (mask, value)) (hv : v &&& mask = value) :
    ds402StatusToState ⟨v⟩ = some state := by
  rw [← and_and_mask v mask (pattern_mask h)] at hv
  rw [← ds402StatusToState_mask]
  revert hv
  apply forall_masked v (P := fun w => w &&& mask = value → ds402StatusToState ⟨w⟩ = some state)
  cases state with
  | start => cases h
  | _ =>
    cases h
    decide +kernel

end

/-- The state that a status word tells; the `assert` does not fail. -/
def Ds402StatusWord.state (statusWord : Ds402StatusWord) : Ds402State :=
  (ds402StatusToState statusWord).get (ds402StatusToState_isSome statusWord.val)

theorem state_of_eq_some {statusWord : Ds402StatusWord} {state : Ds402State}
    (h : ds402StatusToState statusWord = some state) : statusWord.state = state := by
  unfold Ds402StatusWord.state
  exact Option.get_of_eq_some _ h

theorem ds402StatusToState_eq (statusWord : Ds402StatusWord) :
    ds402StatusToState statusWord = some statusWord.state :=
  (Option.some_get _).symm

theorem nextCommand_eq_neg_one_iff {state goal : Ds402State} :
    nextCommandToGoalState state goal = -1 ↔ state = .start ∨ state = .notReadyToSwitchOn := by
  cases state <;> cases goal <;> decide

theorem state_ne_start (statusWord : Ds402StatusWord) : statusWord.state ≠ .start := by
  have hmasked : ds402StatusToState ⟨statusWord.val &&& 0x6f⟩ ≠ some .start :=
    forall_masked statusWord.val (P := fun w => ds402StatusToState ⟨w⟩ ≠ some .start)
      (by decide +kernel)
  rw [ds402StatusToState_mask] at hmasked
  intro hstart
  apply hmasked
  rw [← hstart]
  exact ds402StatusToState_eq statusWord

theorem state_eq_notReady_iff (statusWord : Ds402StatusWord) :
    statusWord.state = .notReadyToSwitchOn ↔ statusWord.val &&& 0x4f = 0 := by
  have hmasked : ds402StatusToState ⟨statusWord.val &&& 0x6f⟩ = some .notReadyToSwitchOn ↔
      statusWord.val &&& 0x6f &&& 0x4f = 0 :=
    forall_masked statusWord.val
      (P := fun w => ds402StatusToState ⟨w⟩ = some .notReadyToSwitchOn ↔ w &&& 0x4f = 0)
      (by decide +kernel)
  rw [ds402StatusToState_mask, and_and_mask _ _ (by decide), ds402StatusToState_eq] at hmasked
  rw [← hmasked, Option.some_inj]

/-- Every status word tells a state, the one whose pattern it has if it has one, and only the
drives that are not ready get no command. -/
theorem statusWord_commanded (statusWord : Ds402StatusWord) (goal : Ds402State) :
    ∃ state, ds402StatusToState statusWord = some state ∧ state ≠ .start ∧
      (∀ other mask value, Ds402State.pattern other = some (mask, value) →
        statusWord.val &&& mask = value → other = state) ∧
      (nextCommandToGoalState state goal = -1 ↔ statusWord.val &&& 0x4f = 0) := by
  refine ⟨statusWord.state, ds402StatusToState_eq statusWord, state_ne_start statusWord, ?_, ?_⟩
  · intro other mask value hpattern hvalue
    exact (state_of_eq_some (ds402StatusToState_pattern statusWord.val hpattern hvalue)).symm
  · rw [nextCommand_eq_neg_one_iff, ← state_eq_notReady_iff]
    constructor
    · rintro (hstart | hnotReady)
      · exact absurd hstart (state_ne_start statusWord)
      · exact hnotReady
    · exact Or.inr

end HexrotPxiCom.DriveTool
