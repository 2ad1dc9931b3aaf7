import HexrotPxiCom.Drives.Ds402
import HexrotPxiCom.Lib.Settling
import Mathlib.Order.Filter.Finite

/-!
# Drives under control

In each cycle a drive gets the command that `driveTool_nextCommandToGoalState` has for the state
in its status word and the goal of that cycle. Of the drive only the transitions of the standard
are assumed: it may be slow, it may fault at any time, and it may keep a state of its own.
-/

namespace HexrotPxiCom.DriveTool

set_option autoImplicit false

open Filter Ds402Command

/-- The transitions of the standard that a command brings about. -/
def transitions : List (Ds402State × Int × Ds402State) :=
  [(.switchOnDisabled, shutdown, .readyToSwitchOn),
    (.readyToSwitchOn, switchOn, .switchedOn),
    (.switchedOn, enableOperation, .operationEnabled),
    (.operationEnabled, disableOperation, .switchedOn),
    (.switchedOn, shutdown, .readyToSwitchOn),
    (.readyToSwitchOn, disableVoltage, .switchOnDisabled),
    (.readyToSwitchOn, quickStop, .switchOnDisabled),
    (.operationEnabled, shutdown, .readyToSwitchOn),
    (.operationEnabled, disableVoltage, .switchOnDisabled),
    (.switchedOn, disableVoltage, .switchOnDisabled),
    (.switchedOn, quickStop, .switchOnDisabled),
    (.operationEnabled, quickStop, .quickStopActive),
    (.quickStopActive, disableVoltage, .switchOnDisabled),
    (.quickStopActive, enableOperation, .operationEnabled),
    (.fault, resetFault, .switchOnDisabled)]

/-- The transitions of the standard that a drive makes by itself. -/
inductive Automatic : Ds402State → Ds402State → Prop where
  | started : Automatic .start .notReadyToSwitchOn
  | initialised : Automatic .notReadyToSwitchOn .switchOnDisabled
  | stopped : Automatic .quickStopActive .switchOnDisabled
  | faultDetected (state : Ds402State) : Automatic state .faultReactionActive
  | reactionDone : Automatic .faultReactionActive .fault

/-- What one cycle can do to the state. -/
def Moves (state : Ds402State) (command : Int) (state' : Ds402State) : Prop :=
  state' = state ∨ Automatic state state' ∨ (state, command, state') ∈ transitions

/-- A drive, by its status word and what a cycle with a command can do to it. -/
structure Drive where
  Status : Type
  statusWord : Status → Ds402StatusWord
  cycle : Status → Int → Status → Prop
  follows : ∀ d command d', cycle d command d' →
    Moves (statusWord d).state command (statusWord d').state

/-- A drive and its controller, cycle after cycle. -/
structure Control (D : Drive) where
  goal : ℕ → Ds402State
  status : ℕ → D.Status
  cycles : ∀ n, D.cycle (status n)
    (nextCommandToGoalState (D.statusWord (status n)).state (goal n)) (status (n + 1))

namespace Control
variable {D : Drive}

def state (c : Control D) (n : ℕ) : Ds402State := (D.statusWord (c.status n)).state

def command (c : Control D) (n : ℕ) : Int := nextCommandToGoalState (c.state n) (c.goal n)

theorem moves (c : Control D) (n : ℕ) : Moves (c.state n) (c.command n) (c.state (n + 1)) :=
  D.follows _ _ _ (c.cycles n)

/-- A command that is given for ever in one state has nothing to do there. -/
def Fair (c : Control D) : Prop :=
  ∀ n, (∀ k ≥ n, c.state k = c.state n ∧ c.command k = c.command n) →
    ∀ state', (c.state n, c.command n, state') ∉ transitions

/-- The reset of a fault is the command's coming, not its being there. -/
def EdgeTriggered (c : Control D) : Prop :=
  ∀ n, c.state (n + 1) = .fault → c.state (n + 2) ≠ .fault →
    c.state (n + 2) ≠ .faultReactionActive → c.command n ≠ resetFault

end Control

/-- The states that a drive can be held in. -/
def goals : List Ds402State :=
  [.switchOnDisabled, .readyToSwitchOn, .switchedOn, .operationEnabled]

/-- The states from which the commands lead to the goal. -/
def Served (goal state : Ds402State) : Prop :=
  state ∈ goals ∨ state = .fault ∧ goal = .switchOnDisabled

instance (goal state : Ds402State) : Decidable (Served goal state) :=
  inferInstanceAs (Decidable (_ ∨ _))

def distance : Ds402State → Ds402State → ℕ
  | .switchOnDisabled, .readyToSwitchOn => 1
  | .switchOnDisabled, .switchedOn => 2
  | .switchOnDisabled, .operationEnabled => 2
  | .switchOnDisabled, .fault => 1
  | .readyToSwitchOn, .switchOnDisabled => 1
  | .readyToSwitchOn, .switchedOn => 1
  | .readyToSwitchOn, .operationEnabled => 1
  | .switchedOn, .switchOnDisabled => 2
  | .switchedOn, .readyToSwitchOn => 1
  | .switchedOn, .operationEnabled => 1
  | .operationEnabled, .switchOnDisabled => 3
  | .operationEnabled, .readyToSwitchOn => 2
  | .operationEnabled, .switchedOn => 1
  | _, _ => 0

section
variable {goal state state' : Ds402State}

/-- The command for a state leads towards the goal and nowhere else. -/
theorem Served.step (hgoal : goal ∈ goals) (h : Served goal state)
    (hstep : (state, nextCommandToGoalState state goal, state') ∈ transitions) :
    Served goal state' ∧ distance goal state' < distance goal state := by
  revert hgoal h hstep
  cases goal <;> cases state <;> cases state' <;> decide

theorem Served.enabled (hgoal : goal ∈ goals) (h : Served goal state)
    (hstay : ∀ state', (state, nextCommandToGoalState state goal, state') ∉ transitions) :
    state = goal := by
  have hcommanded : goal ∈ goals → Served goal state →
      transitions.all (fun t => t.1 != state || t.2.1 != nextCommandToGoalState state goal) =
        true → state = goal := by
    cases goal <;> cases state <;> decide
  apply hcommanded hgoal h
  apply List.all_eq_true.mpr
  rintro ⟨s, c, state'⟩ ht
  by_contra hne
  rw [Bool.not_eq_true, Bool.or_eq_false_iff, bne_eq_false_iff_eq, bne_eq_false_iff_eq] at hne
  have hs : s = state := hne.1
  have hc : c = nextCommandToGoalState state goal := hne.2
  rw [hs, hc] at ht
  exact hstay state' ht

/-- A fault is left by a reset, which is given for one goal only. -/
theorem fault_step
    (hstep : (.fault, nextCommandToGoalState .fault goal, state') ∈ transitions) :
    goal = .switchOnDisabled ∧ state' = .switchOnDisabled := by
  revert hstep
  cases goal <;> cases state' <;> decide

/-- The operation is enabled from one state, for one goal. -/
theorem enabled_step
    (hstep : (state, nextCommandToGoalState state goal, .operationEnabled) ∈ transitions) :
    state = .switchedOn ∧ goal = .operationEnabled := by
  revert hstep
  cases goal <;> cases state <;> decide

theorem faultReaction_notMem {command : Int} :
    (.faultReactionActive, command, state') ∉ transitions := by
  simp [transitions]

theorem Automatic.ne_enabled (ha : Automatic state state') : state' ≠ .operationEnabled := by
  intro henabled
  subst henabled
  cases ha

theorem Served.automatic (h : Served goal state) (ha : Automatic state state') :
    state' = .faultReactionActive := by
  cases ha with
  | faultDetected => rfl
  | _ => rcases h with h | ⟨h, -⟩ <;> simp [goals] at h

end

namespace Control
variable {D : Drive} {c : Control D} {goal : Ds402State} {n : ℕ}

/-- From cycle `n` on the goal stays and the drive has no new fault. -/
structure Undisturbed (c : Control D) (goal : Ds402State) (n : ℕ) : Prop where
  held : ∀ k ≥ n, c.goal k = goal
  noFault : ∀ k ≥ n, c.state k ≠ .faultReactionActive
  served : Served goal (c.state n)

/-- One cycle of a served drive: nothing, or a step nearer to the goal. -/
theorem served_cycle (hgoal : goal ∈ goals) (hset : c.goal n = goal)
    (hnoFault : c.state (n + 1) ≠ .faultReactionActive) (h : Served goal (c.state n)) :
    Served goal (c.state (n + 1)) ∧ (c.state (n + 1) = c.state n ∨
      distance goal (c.state (n + 1)) < distance goal (c.state n)) := by
  rcases c.moves n with hsame | hauto | hstep
  · rw [hsame]
    exact ⟨h, Or.inl rfl⟩
  · exact absurd (h.automatic hauto) hnoFault
  · unfold command at hstep
    rw [hset] at hstep
    obtain ⟨hserved, hlt⟩ := h.step hgoal hstep
    exact ⟨hserved, Or.inr hlt⟩

theorem Undisturbed.served_from (hgoal : goal ∈ goals) (h : c.Undisturbed goal n) {k : ℕ}
    (hk : n ≤ k) : Served goal (c.state k) := by
  induction k, hk using Nat.le_induction with
  | base => exact h.served
  | succ k hk ih =>
    exact (served_cycle hgoal (h.held k hk) (h.noFault (k + 1) (by omega)) ih).1

/-- A drive that does not ignore a command for ever comes to the goal and stays there. -/
theorem Undisturbed.reaches (hgoal : goal ∈ goals) (h : c.Undisturbed goal n) (hfair : c.Fair) :
    ∀ᶠ k in atTop, c.state k = goal := by
  have hlower : ∀ᶠ k in atTop, c.state (k + 1) = c.state k ∨
      distance goal (c.state (k + 1)) < distance goal (c.state k) := by
    refine eventually_atTop.mpr ⟨n, fun k hk => ?_⟩
    exact (served_cycle hgoal (h.held k hk) (h.noFault (k + 1) (by omega))
      (h.served_from hgoal hk)).2
  have hrest : ∀ state, (∀ᶠ k in atTop, c.state k = state) → state = goal := by
    intro state hstate
    obtain ⟨i, hi⟩ := eventually_atTop.mp hstate
    -- a cycle after which neither the goal nor the state changes any more
    have hlate : ∀ k ≥ max i n, c.state k = state ∧ c.goal k = goal := fun k hk =>
      ⟨hi k (by omega), h.held k (by omega)⟩
    obtain ⟨hs, hg⟩ := hlate (max i n) (Nat.le_refl _)
    have hserved := h.served_from hgoal (Nat.le_max_right i n)
    rw [hs] at hserved
    apply hserved.enabled hgoal
    have hstay := hfair (max i n) fun k hk => by
      obtain ⟨hsk, hgk⟩ := hlate k hk
      unfold command
      rw [hs, hg, hsk, hgk]
      exact ⟨rfl, rfl⟩
    unfold command at hstay
    rw [hs, hg] at hstay
    exact hstay
  obtain ⟨state, rfl, hsettled⟩ := Settling.settles hlower hrest
  exact hsettled

end Control

/-- What a drive does that obeys at once, where a reset that was there before is no reset. -/
def respond (state : Ds402State) (last command : Int) : Ds402State :=
  if state = .faultReactionActive then .fault
  else if state = .fault ∧ last = resetFault then .fault
  else
    match transitions.find? fun t => t.1 == state && t.2.1 == command with
    | some t => t.2.2
    | none => state

def reported (state : Ds402State) : Ds402StatusWord := ⟨state.pattern.elim 0 Prod.snd⟩

section
variable {state : Ds402State}

theorem reported_state (h : state ≠ .start) : (reported state).state = state := by
  cases state with
  | start => exact absurd rfl h
  | _ => rfl

theorem respond_moves (state : Ds402State) (last command : Int) :
    Moves state command (respond state last command) := by
  unfold respond
  split
  · rename_i hreaction
    rw [hreaction]
    exact Or.inr (Or.inl .reactionDone)
  · split
    · rename_i hfault
      exact Or.inl hfault.1.symm
    · split
      · rename_i t ht
        have hmem := List.mem_of_find?_eq_some ht
        have hfound := List.find?_some ht
        rw [Bool.and_eq_true, beq_iff_eq, beq_iff_eq] at hfound
        rw [← hfound.1, ← hfound.2]
        exact Or.inr (Or.inr hmem)
      · exact Or.inl rfl

theorem Moves.ne_start {command : Int} {state' : Ds402State} (h : Moves state command state')
    (hne : state ≠ .start) : state' ≠ .start := by
  rintro rfl
  rcases h with hsame | hauto | hstep
  · exact hne hsame.symm
  · cases hauto
  · simp [transitions] at hstep

theorem respond_start (last command : Int) : respond .start last command = .start := by
  simp [respond, transitions]

end

theorem respond_again (command : Int) : respond .fault resetFault command = .fault := by
  simp [respond]

/-- A drive as simple as it can be: its state and its last command. -/
def promptDrive : Drive where
  Status := Ds402State × Int
  statusWord := fun d => reported d.1
  cycle := fun d command d' => d' = (respond d.1 d.2 command, command)
  follows := by
    rintro ⟨state, last⟩ command d' rfl
    have hmoves := respond_moves state last command
    by_cases hstart : state = .start
    · subst hstart
      rw [respond_start]
      exact Or.inl rfl
    · rw [reported_state hstart, reported_state (hmoves.ne_start hstart)]
      exact hmoves

def promptStatus (goal : ℕ → Ds402State) (d : Ds402State × Int) : ℕ → Ds402State × Int
  | 0 => d
  | n + 1 =>
    let command := nextCommandToGoalState (reported (promptStatus goal d n).1).state (goal n)
    (respond (promptStatus goal d n).1 (promptStatus goal d n).2 command, command)

def promptControl (goal : ℕ → Ds402State) (d : Ds402State × Int) : Control promptDrive where
  goal := goal
  status := promptStatus goal d
  cycles := fun _ => rfl

/-- All the drives come to the goal, each in its own time, and `driveTool_areTargetState` says so
from then on. -/
theorem drives_reach_goal {nDrives : ℕ} {D : Fin nDrives → Drive} (c : ∀ i, Control (D i))
    {goal : Ds402State} (hgoal : goal ∈ goals) (hfair : ∀ i, (c i).Fair)
    (hundisturbed : ∀ i, ∃ n, (c i).Undisturbed goal n) :
    ∀ᶠ k in atTop,
      areTargetState (List.ofFn fun i => (c i).state k) nDrives goal = some true := by
  have hall : ∀ᶠ k in atTop, ∀ i, (c i).state k = goal := by
    apply eventually_all.mpr
    intro i
    obtain ⟨n, hn⟩ := hundisturbed i
    exact hn.reaches hgoal (hfair i)
  refine hall.mono fun k hk => ?_
  have hasked := areTargetState_length (List.ofFn fun i => (c i).state k) goal
  rw [List.length_ofFn] at hasked
  rw [hasked]
  simpa using hk

theorem promptStatus_enabled {n : ℕ} (hn : 3 ≤ n) :
    promptStatus (fun _ => .operationEnabled) (.switchOnDisabled, 0) n =
      (.operationEnabled, enableOperation) := by
  induction n, hn using Nat.le_induction with
  | base => rfl
  | succ n _ ih =>
    rw [promptStatus, ih]
    rfl

theorem promptControl_enabled {n : ℕ} (hn : 3 ≤ n) :
    (promptControl (fun _ => .operationEnabled) (.switchOnDisabled, 0)).state n =
      .operationEnabled := by
  have hstatus := promptStatus_enabled hn
  change (reported (promptStatus _ _ n).1).state = _
  rw [hstatus]
  rfl

theorem enableOperation_done {state' : Ds402State} :
    (.operationEnabled, enableOperation, state') ∉ transitions := by
  cases state' <;> decide

theorem drives_reach_goal_two : ∀ᶠ k in atTop,
    areTargetState (List.ofFn fun _ : Fin 2 =>
      (promptControl (fun _ => .operationEnabled) (.switchOnDisabled, 0)).state k) 2
      .operationEnabled = some true := by
  refine drives_reach_goal (fun _ => promptControl (fun _ => .operationEnabled)
    (.switchOnDisabled, 0)) (by decide) ?_ ?_
  · intro _ n hstay state' hmem
    obtain ⟨hstate, hcommand⟩ := hstay (max n 3) (Nat.le_max_left n 3)
    rw [← hstate, ← hcommand, Control.command, promptControl_enabled (Nat.le_max_right n 3)] at hmem
    exact enableOperation_done hmem
  · intro _
    -- the three cycles on the way, and the goal behind them
    have hway : ∀ k < 3, (promptControl (fun _ => .operationEnabled)
        (.switchOnDisabled, 0)).state k ≠ .faultReactionActive := by
      decide
    refine ⟨0, fun _ _ => rfl, fun k _ => ?_, by decide⟩
    rcases Nat.lt_or_ge k 3 with hlt | hge
    · exact hway k hlt
    · rw [promptControl_enabled hge]
      decide

namespace Control
variable {D : Drive} {c : Control D} {i j : ℕ}

/-- Since cycle `i` the drive is down, or somebody has asked for its fault to be reset; then it
is enabled only if that has been asked for as well. -/
def DownSince (c : Control D) (i j : ℕ) : Prop :=
  (c.state j = .fault ∨ c.state j = .faultReactionActive) ∨
  ∃ k, i ≤ k ∧ k < j ∧ c.state k = .fault ∧ c.goal k = .switchOnDisabled ∧
    (c.state j ≠ .operationEnabled ∨
      ∃ n, k < n ∧ n < j ∧ c.state n = .switchedOn ∧ c.goal n = .operationEnabled)

theorem down_cycle (h : c.state j = .fault ∨ c.state j = .faultReactionActive) :
    (c.state (j + 1) = .fault ∨ c.state (j + 1) = .faultReactionActive) ∨
    c.state j = .fault ∧ c.command j = resetFault ∧ c.goal j = .switchOnDisabled ∧
      c.state (j + 1) = .switchOnDisabled := by
  rcases c.moves j with hsame | hauto | hstep
  · rw [hsame]
    exact Or.inl h
  · generalize c.state (j + 1) = state' at hauto
    rcases h with h | h
    · rw [h] at hauto
      cases hauto
      exact Or.inl (Or.inr rfl)
    · rw [h] at hauto
      cases hauto with
      | faultDetected => exact Or.inl (Or.inr rfl)
      | reactionDone => exact Or.inl (Or.inl rfl)
  · rcases h with h | h
    · unfold command at hstep
      rw [h] at hstep
      obtain ⟨hgoal, hstate⟩ := fault_step hstep
      refine Or.inr ⟨h, ?_, hgoal, hstate⟩
      rw [command, h, hgoal]
      rfl
    · rw [h] at hstep
      exact absurd hstep faultReaction_notMem

theorem DownSince.cycle (hij : i ≤ j) (h : c.DownSince i j) : c.DownSince i (j + 1) := by
  rcases h with hdown | ⟨k, hik, hkj, hfault, hreset, hrest⟩
  · rcases down_cycle hdown with hdown | ⟨hfault, -, hreset, hstate⟩
    · exact Or.inl hdown
    · refine Or.inr ⟨j, hij, Nat.lt_succ_self j, hfault, hreset, Or.inl ?_⟩
      rw [hstate]
      decide
  · refine Or.inr ⟨k, hik, Nat.lt_succ_of_lt hkj, hfault, hreset, ?_⟩
    rcases hrest with hnot | ⟨n, hkn, hnj, hn⟩
    · by_cases henabled : c.state (j + 1) = .operationEnabled
      · rcases c.moves j with hsame | hauto | hstep
        · exact absurd (hsame.symm.trans henabled) hnot
        · exact absurd henabled hauto.ne_enabled
        · rw [henabled] at hstep
          exact Or.inr ⟨j, hkj, Nat.lt_succ_self j, enabled_step hstep⟩
      · exact Or.inl henabled
    · exact Or.inr ⟨n, hkn, Nat.lt_succ_of_lt hnj, hn⟩

/-- Between a fault and the next enabled operation, switching off was a goal while the drive was
in its fault, and after that enabling the operation was a goal while it was switched on. -/
theorem enabled_only_after_reset (c : Control D) (hij : i ≤ j)
    (hfault : c.state i = .fault ∨ c.state i = .faultReactionActive)
    (henabled : c.state j = .operationEnabled) :
    ∃ k n, i ≤ k ∧ k < n ∧ n < j ∧ c.state k = .fault ∧ c.goal k = .switchOnDisabled ∧
      c.state n = .switchedOn ∧ c.goal n = .operationEnabled := by
  have hdown : c.DownSince i j := by
    clear henabled
    induction j, hij using Nat.le_induction with
    | base => exact Or.inl hfault
    | succ j hij ih => exact ih.cycle hij
  rcases hdown with hdown | ⟨k, hik, -, hfault, hreset, hrest⟩
  · rw [henabled] at hdown
    rcases hdown with hdown | hdown <;> cases hdown
  · rcases hrest with hnot | ⟨n, hkn, hnj, hswitched, hgoal⟩
    · exact absurd henabled hnot
    · exact ⟨k, n, hik, hkn, hnj, hfault, hreset, hswitched, hgoal⟩

/-- In cycle 0 the fault is reset, and from then on enabling is the goal. -/
def resetThenEnable (n : ℕ) : Ds402State :=
  if n = 0 then .switchOnDisabled else .operationEnabled

theorem enabled_only_after_reset_prompt :
    ∃ k n, 0 ≤ k ∧ k < n ∧ n < 4 ∧
      (promptControl resetThenEnable (.fault, 0)).state k = .fault ∧
      resetThenEnable k = .switchOnDisabled ∧
      (promptControl resetThenEnable (.fault, 0)).state n = .switchedOn ∧
      resetThenEnable n = .operationEnabled :=
  enabled_only_after_reset (promptControl resetThenEnable (.fault, 0)) (Nat.zero_le 4)
    (Or.inl (by decide)) (by decide)

theorem down_command (h : c.state j = .fault ∨ c.state j = .faultReactionActive)
    (hgoal : c.goal j = .switchOnDisabled) : c.command j = resetFault := by
  unfold command
  rcases h with h | h
  · rw [h, hgoal]
    rfl
  · rw [h, hgoal]
    rfl

theorem stays_down (hedge : c.EdgeTriggered) (hij : i ≤ j)
    (hreaction : c.state i = .faultReactionActive)
    (hgoal : ∀ k, i ≤ k → k < j → c.goal k = .switchOnDisabled) :
    (c.state j = .fault ∨ c.state j = .faultReactionActive) ∧
      (c.state (j + 1) = .fault ∨ c.state (j + 1) = .faultReactionActive) := by
  induction j, hij using Nat.le_induction with
  | base =>
    refine ⟨Or.inr hreaction, ?_⟩
    rcases down_cycle (Or.inr hreaction) with hdown | ⟨hfault, -⟩
    · exact hdown
    · rw [hreaction] at hfault
      cases hfault
  | succ j hij ih =>
    obtain ⟨hdown, hnext⟩ := ih fun k hik hkj => hgoal k hik (Nat.lt_succ_of_lt hkj)
    refine ⟨hnext, ?_⟩
    rcases down_cycle hnext with hdown' | ⟨hfault, -, -, hstate⟩
    · exact hdown'
    · -- the command before was the reset already
      have hcommand := down_command hdown (hgoal j hij (Nat.lt_succ_self j))
      refine absurd hcommand (hedge j hfault ?_ ?_)
      · rw [hstate]
        decide
      · rw [hstate]
        decide

/-- An edge-triggered reset does not work while switching off is the goal since the reaction to
the fault: the command was there already when the drive came into its fault. -/
theorem reset_needs_other_goal (c : Control D) (hedge : c.EdgeTriggered) (hij : i ≤ j)
    (hreaction : c.state i = .faultReactionActive) (hfault : c.state (j + 1) ≠ .fault)
    (hdone : c.state (j + 1) ≠ .faultReactionActive) :
    ∃ k, i ≤ k ∧ k < j ∧ c.goal k ≠ .switchOnDisabled := by
  by_contra hnone
  have hgoal : ∀ k, i ≤ k → k < j → c.goal k = .switchOnDisabled := by
    intro k hik hkj
    by_contra hne
    exact hnone ⟨k, hik, hkj, hne⟩
  rcases (stays_down hedge hij hreaction hgoal).2 with h | h
  · exact hfault h
  · exact hdone h

theorem eq_fault_of_reported {state : Ds402State} (h : (reported state).state = .fault) :
    state = .fault := by
  cases state with
  | fault => rfl
  | _ => cases h

theorem promptControl_edgeTriggered (goal : ℕ → Ds402State) (d : Ds402State × Int) :
    (promptControl goal d).EdgeTriggered := by
  intro n hfault hleft _ hcommand
  have hstate : (promptStatus goal d (n + 1)).1 = .fault := eq_fault_of_reported hfault
  have hlast : (promptStatus goal d (n + 1)).2 = resetFault := hcommand
  apply hleft
  change (reported
    (respond (promptStatus goal d (n + 1)).1 (promptStatus goal d (n + 1)).2 _)).state = _
  rw [hstate, hlast]
  exact congrArg (fun state => (reported state).state) (respond_again _)

/-- Switching off becomes the goal in cycle 2, when the fault is there already. -/
def enableThenReset (n : ℕ) : Ds402State :=
  if n < 2 then .operationEnabled else .switchOnDisabled

theorem reset_needs_other_goal_prompt :
    (promptControl enableThenReset (.faultReactionActive, 0)).state 3 = .switchOnDisabled ∧
      ∃ k, 0 ≤ k ∧ k < 2 ∧ enableThenReset k ≠ .switchOnDisabled :=
  ⟨by decide, reset_needs_other_goal (promptControl enableThenReset (.faultReactionActive, 0))
    (promptControl_edgeTriggered _ _) (Nat.zero_le 2) (by decide) (by decide) (by decide)⟩

end Control

end HexrotPxiCom.DriveTool
