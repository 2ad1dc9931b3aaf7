import Mathlib.Data.List.Basic
import Mathlib.Tactic.Tauto

/-!
# Runs of a machine with labelled steps

`step s a` is the state after the action `a`, or `none` when `a` is not possible in `s`.
Scheduling and the answers of the environment are part of the action, so a list of
actions determines a run. `Guarded ok` says that every action of a run is taken in a
state where `ok` allows it, and `Along P` that every state has `P`. `observe` collects what
is noted at each step. `Leads next P` follows the steps of one part of the machine alone.
-/

namespace HexrotPxiCom.Runs

set_option autoImplicit false

universe u v w
variable {σ : Type u} {α : Type v}

/-- The state after a list of actions. -/
def run (step : σ → α → Option σ) : σ → List α → Option σ
  | s, [] => some s
  | s, a :: as => (step s a).bind fun t => run step t as

/-- Every action of the run that is reached is allowed by `ok` where it is taken. -/
def Guarded (step : σ → α → Option σ) (ok : σ → α → Prop) : σ → List α → Prop
  | _, [] => True
  | s, a :: as => ok s a ∧
    match step s a with
    | none => True
    | some t => Guarded step ok t as

instance Guarded.decidable (step : σ → α → Option σ) (ok : σ → α → Prop)
    [h : ∀ s a, Decidable (ok s a)] : ∀ s as, Decidable (Guarded step ok s as)
  | _, [] => .isTrue trivial
  | s, a :: as =>
    have : Decidable (match step s a with
        | none => True
        | some t => Guarded step ok t as) :=
      match step s a with
      | none => .isTrue trivial
      | some t => Guarded.decidable step ok t as
    inferInstanceAs (Decidable (_ ∧ _))

/-- Every state of the run has `P`. -/
def Along (step : σ → α → Option σ) (P : σ → Prop) : σ → List α → Prop
  | s, [] => P s
  | s, a :: as => P s ∧
    match step s a with
    | none => True
    | some t => Along step P t as

section
variable {step : σ → α → Option σ} {ok ok' : σ → α → Prop} {s t u : σ} {a : α} {as bs : List α}

@[simp] theorem run_nil : run step s [] = some s := rfl

theorem run_cons_eq_some :
    run step s (a :: as) = some u ↔ ∃ t, step s a = some t ∧ run step t as = some u := by
  simp [run, Option.bind_eq_some_iff]

theorem run_append_eq_some :
    run step s (as ++ bs) = some u ↔ ∃ t, run step s as = some t ∧ run step t bs = some u := by
  induction as generalizing s with
  | nil => simp
  | cons a as ih =>
    simp only [List.cons_append, run_cons_eq_some, ih]
    constructor
    · rintro ⟨v, hv, w, hw, hu⟩
      exact ⟨w, ⟨v, hv, hw⟩, hu⟩
    · rintro ⟨w, ⟨v, hv, hw⟩, hu⟩
      exact ⟨v, hv, w, hw, hu⟩

theorem Guarded.cons_of_step (h : Guarded step ok s (a :: as)) (ha : step s a = some t) :
    ok s a ∧ Guarded step ok t as := by
  obtain ⟨h1, h2⟩ := h
  rw [ha] at h2
  exact ⟨h1, h2⟩

/-- What every allowed step keeps, every guarded run keeps. -/
theorem Guarded.invariant {I : σ → Prop}
    (hstep : ∀ s a t, I s → ok s a → step s a = some t → I t)
    (hg : Guarded step ok s as) (hr : run step s as = some t) (hs : I s) : I t := by
  induction as generalizing s with
  | nil =>
    cases hr
    exact hs
  | cons a as ih =>
    obtain ⟨v, hv, hr⟩ := run_cons_eq_some.mp hr
    obtain ⟨h1, h2⟩ := Guarded.cons_of_step hg hv
    exact ih h2 hr (hstep s a v hs h1 hv)

/-- What holds of every action of the list guards the run as well. -/
theorem Guarded.mem {P : α → Prop} (h : Guarded step ok s as) (hP : ∀ a ∈ as, P a) :
    Guarded step (fun s a => ok s a ∧ P a) s as := by
  induction as generalizing s with
  | nil => trivial
  | cons a as ih =>
    obtain ⟨hok, hrest⟩ := h
    refine ⟨⟨hok, hP a List.mem_cons_self⟩, ?_⟩
    cases ha : step s a with
    | none => trivial
    | some t =>
      rw [ha] at hrest
      exact ih hrest fun b hb => hP b (List.mem_cons_of_mem a hb)

theorem Guarded.and_iff : Guarded step (fun s a => ok s a ∧ ok' s a) s as ↔
    Guarded step ok s as ∧ Guarded step ok' s as := by
  induction as generalizing s with
  | nil => exact ⟨fun _ => ⟨trivial, trivial⟩, fun _ => trivial⟩
  | cons a as ih =>
    unfold Guarded
    cases ha : step s a with
    | none =>
      dsimp only
      tauto
    | some t =>
      dsimp only
      rw [ih]
      tauto

theorem Along.head {P : σ → Prop} (h : Along step P s as) : P s := by
  cases as with
  | nil => exact h
  | cons a as => exact h.1

theorem Along.and_iff {P Q : σ → Prop} : Along step (fun s => P s ∧ Q s) s as ↔
    Along step P s as ∧ Along step Q s as := by
  induction as generalizing s with
  | nil => exact Iff.rfl
  | cons a as ih =>
    unfold Along
    cases ha : step s a with
    | none =>
      dsimp only
      tauto
    | some t =>
      dsimp only
      rw [ih]
      tauto

/-- What a step with any action of the list keeps, the run keeps. -/
theorem run_mem_invariant {I : σ → Prop}
    (hstep : ∀ s a t, a ∈ as → I s → step s a = some t → I t)
    (hr : run step s as = some t) (hs : I s) : I t := by
  induction as generalizing s with
  | nil =>
    cases hr
    exact hs
  | cons a as ih =>
    obtain ⟨v, hv, hr⟩ := run_cons_eq_some.mp hr
    exact ih (fun s b t hb => hstep s b t (List.mem_cons_of_mem a hb)) hr
      (hstep s a v List.mem_cons_self hs hv)

/-- What every step keeps, every run keeps. -/
theorem run_invariant {I : σ → Prop} (hstep : ∀ s a t, I s → step s a = some t → I t)
    (hr : run step s as = some t) (hs : I s) : I t :=
  run_mem_invariant (fun s a t _ => hstep s a t) hr hs

end

section
variable {β : Type w}

/-- What `note` writes down at each step of a run. -/
def observe (step : σ → α → Option σ) (note : σ → α → σ → List β) : σ → List α → List β
  | _, [] => []
  | s, a :: as =>
    match step s a with
    | none => []
    | some t => note s a t ++ observe step note t as

variable {step : σ → α → Option σ} {note into out : σ → α → σ → List β} {s t : σ} {a : α}
  {as : List α}

theorem observe_cons (h : step s a = some t) :
    observe step note s (a :: as) = note s a t ++ observe step note t as := by
  rw [observe, h]

theorem observe_hom {γ : Type w} {h : List β → List γ} (hnil : h [] = [])
    (happend : ∀ l r, h (l ++ r) = h l ++ h r) :
    h (observe step note s as) = observe step (fun s a t => h (note s a t)) s as := by
  induction as generalizing s with
  | nil => exact hnil
  | cons a as ih =>
    cases ha : step s a with
    | none => simp [observe, ha, hnil]
    | some v => rw [observe_cons ha, observe_cons ha, happend, ih]

/-- What every note keeps in the reachable states holds for all that is noted. -/
theorem observe_forall {I : σ → Prop} {P : β → Prop}
    (hstep : ∀ s a t, I s → step s a = some t → I t)
    (hnote : ∀ s a t, I s → step s a = some t → ∀ x ∈ note s a t, P x) (hs : I s) :
    ∀ x ∈ observe step note s as, P x := by
  induction as generalizing s with
  | nil => simp [observe]
  | cons a as ih =>
    cases ha : step s a with
    | none => simp [observe, ha]
    | some v =>
      intro x hx
      rw [observe_cons ha] at hx
      rcases List.mem_append.mp hx with hx | hx
      · exact hnote s a v hs ha x hx
      · exact ih (hstep s a v hs ha) x hx

/-- A history that each step extends by its note. -/
theorem observe_history {f : σ → List β} (hf : ∀ s a t, step s a = some t → f t = f s ++ note s a t)
    (hr : run step s as = some t) : f t = f s ++ observe step note s as := by
  induction as generalizing s with
  | nil =>
    cases hr
    simp [observe]
  | cons a as ih =>
    obtain ⟨v, hv, hr⟩ := run_cons_eq_some.mp hr
    rw [ih hr, hf s a v hv, observe_cons hv, List.append_assoc]

/-- What comes into a store goes out in the same order or stays, until the store is closed. -/
inductive Conserves : Option (List β) → List β → List β → Option (List β) → Prop where
  | moved {q q' i o : List β} (h : q ++ i = o ++ q') : Conserves (some q) i o (some q')
  | closed (c : Option (List β)) : Conserves c [] [] none

theorem observe_closed {content : σ → Option (List β)}
    (hstep : ∀ s a t, step s a = some t →
      Conserves (content s) (into s a t) (out s a t) (content t))
    (hr : run step s as = some t) (hs : content s = none) :
    observe step into s as = [] ∧ observe step out s as = [] ∧ content t = none := by
  induction as generalizing s with
  | nil =>
    cases hr
    exact ⟨rfl, rfl, hs⟩
  | cons a as ih =>
    obtain ⟨v, hv, hr⟩ := run_cons_eq_some.mp hr
    have h := hstep s a v hv
    rw [hs] at h
    generalize hi : into s a v = i at h
    generalize ho : out s a v = o at h
    generalize hc : content v = c at h
    cases h with
    | closed =>
      obtain ⟨h1, h2, h3⟩ := ih hr hc
      rw [observe_cons hv, observe_cons hv, hi, ho, h1, h2]
      exact ⟨rfl, rfl, h3⟩

/-- Over a run, what came in is what went out and what is still there. -/
theorem run_conserves {content : σ → Option (List β)}
    (hstep : ∀ s a t, step s a = some t →
      Conserves (content s) (into s a t) (out s a t) (content t))
    (hr : run step s as = some t) {q : List β} (hs : content s = some q) :
    ∃ rest, q ++ observe step into s as = observe step out s as ++ rest ∧
      ∀ q', content t = some q' → rest = q' := by
  induction as generalizing s q with
  | nil =>
    cases hr
    refine ⟨q, by simp [observe], ?_⟩
    intro q' hq'
    exact Option.some.inj (hs.symm.trans hq')
  | cons a as ih =>
    obtain ⟨v, hv, hr⟩ := run_cons_eq_some.mp hr
    have h := hstep s a v hv
    rw [observe_cons hv, observe_cons hv]
    rw [hs] at h
    generalize hi : into s a v = i at h ⊢
    generalize ho : out s a v = o at h ⊢
    generalize hc : content v = c at h
    cases h with
    | moved heq =>
      obtain ⟨rest, hrest, hleft⟩ := ih hr hc
      refine ⟨rest, ?_, hleft⟩
      rw [← List.append_assoc, heq, List.append_assoc, hrest, List.append_assoc]
    | closed =>
      obtain ⟨h1, h2, h3⟩ := observe_closed hstep hr hc
      refine ⟨q, by simp [h1, h2], ?_⟩
      intro q' hq'
      rw [h3] at hq'
      cases hq'

end

/-- The steps `next` lead to a state with `P`. -/
inductive Leads (next : σ → Option σ) (P : σ → Prop) : σ → Prop where
  | here {s : σ} (h : P s) : Leads next P s
  | step {s t : σ} (h : next s = some t) (hrest : Leads next P t) : Leads next P s

theorem Leads.trans {next : σ → Option σ} {P Q : σ → Prop} {s : σ} (h : Leads next P s)
    (hq : ∀ t, P t → Leads next Q t) : Leads next Q s := by
  induction h with
  | here h => exact hq _ h
  | step h _ ih => exact .step h ih

/-- What each of the steps keeps still holds at their end. -/
theorem Leads.and {next : σ → Option σ} {P I : σ → Prop} {s : σ} (h : Leads next P s)
    (hnext : ∀ s t, I s → next s = some t → I t) (hs : I s) :
    Leads next (fun t => P t ∧ I t) s := by
  induction h with
  | here h => exact .here ⟨h, hs⟩
  | step h _ ih => exact .step h (ih (hnext _ _ hs h))

/-- Progress by a measure that goes down as long as `P` is not reached. -/
theorem Leads.of_measure {next : σ → Option σ} {P I : σ → Prop} (m : σ → Nat)
    (hnext : ∀ s, I s → ¬ P s → ∃ t, next s = some t ∧ (P t ∨ I t ∧ m t < m s))
    {s : σ} (hs : I s) : Leads next P s := by
  obtain ⟨k, hk⟩ : ∃ k, m s < k := ⟨_, Nat.lt_succ_self _⟩
  induction k generalizing s with
  | zero => exact absurd hk (Nat.not_lt_zero _)
  | succ k ih =>
    by_cases hp : P s
    · exact .here hp
    · obtain ⟨t, ht, hp | ⟨hi, hlt⟩⟩ := hnext s hs hp
      · exact .step ht (.here hp)
      · exact .step ht (ih hi (by omega))

section
variable {step : σ → α → Option σ} {P : σ → Prop} {s : σ}

theorem Leads.run (step : σ → α → Option σ) (a : α) (h : Leads (fun s => step s a) P s) :
    ∃ k t, run step s (List.replicate k a) = some t ∧ P t := by
  induction h with
  | here h => exact ⟨0, _, rfl, h⟩
  | step h _ ih =>
    obtain ⟨k, u, hrun, hu⟩ := ih
    exact ⟨k + 1, u, run_cons_eq_some.mpr ⟨_, h, hrun⟩, hu⟩

/-- Forward simulation: when each step of one machine is matched by a run of the other, so
is each run. -/
theorem run_simulates {τ : Type u} {β : Type v} {step' : τ → β → Option τ} {R : σ → τ → Prop}
    (hstep : ∀ s s' t a, R s t → step s a = some s' →
      ∃ bs t', Runs.run step' t bs = some t' ∧ R s' t')
    {as : List α} {s' : σ} {t : τ} (hr : Runs.run step s as = some s') (hs : R s t) :
    ∃ bs t', Runs.run step' t bs = some t' ∧ R s' t' := by
  induction as generalizing s t with
  | nil =>
    cases hr
    exact ⟨[], t, rfl, hs⟩
  | cons a as ih =>
    obtain ⟨v, hv, hr⟩ := run_cons_eq_some.mp hr
    obtain ⟨bs, u, hbs, hu⟩ := hstep s v t a hs hv
    obtain ⟨cs, t', hcs, ht'⟩ := ih hr hu
    exact ⟨bs ++ cs, t', run_append_eq_some.mpr ⟨u, hbs, hcs⟩, ht'⟩

/-- One part of an interleaving counts down: each of its steps takes one off, and the others leave
the count as it is. -/
theorem run_countdown (W : Nat → σ → Prop) (ok : α → Prop) {mine : α → Bool}
    (hmine : ∀ k s a t, mine a = true → ok a → W k s → step s a = some t → W (k - 1) t)
    (hother : ∀ k s a t, mine a = false → ok a → W k s → step s a = some t → W k t)
    {as : List α} {t : σ} {k : Nat} (hok : ∀ a ∈ as, ok a) (hr : run step s as = some t)
    (hs : W k s) : W (k - as.countP mine) t := by
  induction as generalizing s k with
  | nil =>
    cases hr
    exact hs
  | cons a as ih =>
    obtain ⟨v, hv, hr⟩ := run_cons_eq_some.mp hr
    have hfirst := hok a List.mem_cons_self
    have hrest : ∀ b ∈ as, ok b := fun b hb => hok b (List.mem_cons_of_mem a hb)
    cases ha : mine a with
    | true =>
      have hlast := ih hrest hr (hmine k s a v ha hfirst hs hv)
      rw [List.countP_cons_of_pos ha]
      rwa [Nat.sub_sub, Nat.add_comm] at hlast
    | false =>
      rw [List.countP_cons_of_neg (by rw [ha]; decide)]
      exact ih hrest hr (hother k s a v ha hfirst hs hv)

/-- A part that comes to `Q` before its count is at an end comes to it on the way of every run in
which it takes that many steps. -/
theorem run_reaches (W : Nat → σ → Prop) (Q : σ → Prop) (ok : α → Prop) {mine : α → Bool}
    (hend : ∀ s, W 0 s → Q s)
    (hmine : ∀ k s a t, mine a = true → ok a → W (k + 1) s → step s a = some t → Q t ∨ W k t)
    (hother : ∀ k s a t, mine a = false → ok a → W k s → step s a = some t → W k t)
    {as : List α} {t : σ} {k : Nat} (hok : ∀ a ∈ as, ok a) (hr : run step s as = some t)
    (hs : W k s) (hk : k ≤ as.countP mine) :
    ∃ bs cs u, as = bs ++ cs ∧ run step s bs = some u ∧ Q u := by
  induction as generalizing s k with
  | nil =>
    rw [List.countP_nil, Nat.le_zero] at hk
    subst hk
    exact ⟨[], [], s, rfl, rfl, hend s hs⟩
  | cons a as ih =>
    obtain ⟨v, hv, hr⟩ := run_cons_eq_some.mp hr
    have hfirst := hok a List.mem_cons_self
    have hrest : ∀ b ∈ as, ok b := fun b hb => hok b (List.mem_cons_of_mem a hb)
    have hlater (j : Nat) (hv' : W j v) (hj : j ≤ as.countP mine) :
        ∃ bs cs u, a :: as = bs ++ cs ∧ run step s bs = some u ∧ Q u := by
      obtain ⟨bs, cs, u, rfl, hbs, hu⟩ := ih hrest hr hv' hj
      exact ⟨a :: bs, cs, u, rfl, run_cons_eq_some.mpr ⟨v, hv, hbs⟩, hu⟩
    cases ha : mine a with
    | true =>
      rw [List.countP_cons_of_pos ha] at hk
      cases k with
      | zero => exact ⟨[], a :: as, s, rfl, rfl, hend s hs⟩
      | succ k =>
        rcases hmine k s a v ha hfirst hs hv with hdone | hless
        · exact ⟨[a], as, v, rfl, run_cons_eq_some.mpr ⟨v, hv, rfl⟩, hdone⟩
        · exact hlater k hless (Nat.le_of_succ_le_succ hk)
    | false =>
      rw [List.countP_cons_of_neg (by rw [ha]; decide)] at hk
      exact hlater k (hother k s a v ha hfirst hs hv) hk

end

/-- A run in which `ok` allows every action leads to `t`. -/
inductive Reach (step : σ → α → Option σ) (ok : σ → α → Prop) (t : σ) : σ → Prop where
  | refl : Reach step ok t t
  | head {s v : σ} {a : α} (hok : ok s a) (hstep : step s a = some v)
      (hrest : Reach step ok t v) : Reach step ok t s

section
variable {step : σ → α → Option σ} {ok : σ → α → Prop} {s t u : σ}

theorem Reach.trans (h : Reach step ok t s) (hu : Reach step ok u t) : Reach step ok u s := by
  induction h with
  | refl => exact hu
  | head hok hstep _ ih => exact .head hok hstep ih

theorem Reach.run (h : Reach step ok t s) :
    ∃ as, Guarded step ok s as ∧ Runs.run step s as = some t := by
  induction h with
  | refl => exact ⟨[], trivial, rfl⟩
  | @head s v a hok hstep _ ih =>
    obtain ⟨as, hguard, hrun⟩ := ih
    refine ⟨a :: as, ⟨hok, ?_⟩, run_cons_eq_some.mpr ⟨v, hstep, hrun⟩⟩
    rw [hstep]
    exact hguard

end

end HexrotPxiCom.Runs
