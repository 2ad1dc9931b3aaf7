import HexrotPxiCom.Lib.Runs

/-!
# A bounded queue that drops its oldest element

The queue as a machine with results, and what its results say about the elements that
went through it.
-/

namespace HexrotPxiCom.BoundedFifo

set_option autoImplicit false

universe u
variable {α : Type u}

/-- A call; `get` has the content of the variable that the caller offers. -/
inductive Op (α : Type u) where
  | put (a : α)
  | get (data : α)
  | size
  deriving Repr, DecidableEq

inductive Result (α : Type u) where
  | put (lost : Bool)
  | get (isEmpty : Bool) (data : α)
  | size (n : Nat)
  deriving Repr, DecidableEq

def step (n : Nat) (q : List α) : Op α → Result α × List α
  | .put a => if q.length = n then (.put true, q.tail ++ [a]) else (.put false, q ++ [a])
  | .get data =>
    match q with
    | [] => (.get true data, [])
    | a :: r => (.get false a, r)
  | .size => (.size q.length, q)

/-- The results of the calls, and the queue after them. -/
def results (n : Nat) (q : List α) : List (Op α) → List (Result α) × List α
  | [] => ([], q)
  | op :: ops =>
    ((step n q op).1 :: (results n (step n q op).2 ops).1, (results n (step n q op).2 ops).2)

def puts (ops : List (Op α)) : List α :=
  ops.filterMap fun op => match op with
    | .put a => some a
    | _ => none

theorem puts_append (ops ops' : List (Op α)) : puts (ops ++ ops') = puts ops ++ puts ops' :=
  List.filterMap_append

def delivered (rs : List (Result α)) : List α :=
  rs.filterMap fun r => match r with
    | .get false a => some a
    | _ => none

def lost (rs : List (Result α)) : Nat :=
  rs.countP fun r => match r with
    | .put true => true
    | _ => false

/-- Every element put is delivered, dropped by a put that says so, or still there. -/
theorem results_count {n : Nat} (hn : 0 < n) (q : List α) (ops : List (Op α)) :
    q.length + (puts ops).length =
      (delivered (results n q ops).1).length + lost (results n q ops).1 +
        (results n q ops).2.length := by
  induction ops generalizing q with
  | nil => simp [puts, results, delivered, lost]
  | cons op ops ih =>
    have hrest := ih (step n q op).2
    cases op with
    | put a =>
      by_cases hfull : q.length = n
      · simp [puts, results, delivered, lost, step, hfull] at hrest ⊢
        omega
      · simp [puts, results, delivered, lost, step, hfull] at hrest ⊢
        omega
    | get data =>
      cases q with
      | nil =>
        simp [puts, results, delivered, lost, step] at hrest ⊢
        omega
      | cons a r =>
        simp [puts, results, delivered, lost, step] at hrest ⊢
        omega
    | size =>
      simp [puts, results, delivered, lost, step] at hrest ⊢
      omega

/-- What is delivered and what is left stands in the order of the puts. -/
theorem results_sublist (n : Nat) (q : List α) (ops : List (Op α)) :
    (delivered (results n q ops).1 ++ (results n q ops).2).Sublist (q ++ puts ops) := by
  induction ops generalizing q with
  | nil => simp [puts, results, delivered]
  | cons op ops ih =>
    have hrest := ih (step n q op).2
    cases op with
    | put a =>
      have hputs : puts (.put a :: ops) = a :: puts ops := rfl
      by_cases hfull : q.length = n
      · have hs : step n q (.put a) = (.put true, q.tail ++ [a]) := by simp [step, hfull]
        rw [hs] at hrest
        have htail : (q.tail ++ [a] ++ puts ops).Sublist (q ++ a :: puts ops) := by
          rw [List.append_assoc, List.singleton_append]
          exact (List.tail_sublist q).append_right _
        simp only [results, hs, hputs]
        exact hrest.trans htail
      · have hs : step n q (.put a) = (.put false, q ++ [a]) := by simp [step, hfull]
        rw [hs] at hrest
        simp only [results, hs, hputs]
        simpa [delivered] using hrest
    | get data =>
      cases q with
      | nil => exact hrest
      | cons a r => exact hrest.cons_cons a
    | size => exact hrest

theorem delivered_append (rs rs' : List (Result α)) :
    delivered (rs ++ rs') = delivered rs ++ delivered rs' :=
  List.filterMap_append

theorem lost_append (rs rs' : List (Result α)) : lost (rs ++ rs') = lost rs + lost rs' :=
  List.countP_append

theorem results_append {n : Nat} (q : List α) (ops ops' : List (Op α)) :
    results n q (ops ++ ops') =
      ((results n q ops).1 ++ (results n (results n q ops).2 ops').1,
        (results n (results n q ops).2 ops').2) := by
  induction ops generalizing q with
  | nil => rfl
  | cons op ops ih =>
    rw [List.cons_append, results, ih]
    rfl

/-- Without an overwriting put, everything put is delivered or still there, in order. -/
theorem results_lossless {n : Nat} (hn : 0 < n) (q : List α) (ops : List (Op α))
    (hlost : lost (results n q ops).1 = 0) :
    delivered (results n q ops).1 ++ (results n q ops).2 = q ++ puts ops := by
  apply (results_sublist n q ops).eq_of_length
  have hcount := results_count hn q ops
  rw [List.length_append, List.length_append]
  omega

end HexrotPxiCom.BoundedFifo
