import HexrotPxiCom.Lib.MsgQueue
import Mathlib.Logic.Function.Basic

/-!
# The message queues of a system, by their names

`mq_open` gives whoever opens a name the queue that has it, and `mq_unlink` takes the name
away. As long as a queue is used only under its name, the system is a partial map from
names to queues.
-/

namespace HexrotPxiCom.NamedQueues

set_option autoImplicit false

universe u v
variable {ν : Type u} {β : Type v}

/-- A queue with the size of its messages. -/
structure Queue (β : Type v) extends MsgQueue (List β) where
  msgsize : Nat

def Queue.empty (maxmsg msgsize : Nat) : Queue β := ⟨.empty maxmsg, msgsize⟩

/-- `none`: the message is too long, or the queue is full. -/
def Queue.send (q : Queue β) (msg : List β) : Option (Queue β) :=
  if msg.length ≤ q.msgsize then (q.toMsgQueue.send msg).map fun r => ⟨r, q.msgsize⟩ else none

/-- `none`: there is less room than a message may need, or the queue is empty. -/
def Queue.receive (q : Queue β) (room : Nat) : Option (List β × Queue β) :=
  if q.msgsize ≤ room then q.toMsgQueue.receive.map fun r => (r.1, ⟨r.2, q.msgsize⟩) else none

/-- Queues are numbered in the order in which they are made. -/
structure System (ν : Type u) (β : Type v) where
  names : ν → Option Nat
  queues : Nat → Queue β
  next : Nat

namespace System

def empty : System ν β := ⟨fun _ => none, fun _ => .empty 0 0, 0⟩

section
variable [DecidableEq ν]

/-- `mq_open` with `O_CREAT`; the attributes are those of a new queue only. -/
def mqOpen (name : ν) (maxmsg msgsize : Nat) (s : System ν β) : Nat × System ν β :=
  match s.names name with
  | some mqd => (mqd, s)
  | none => (s.next, {
      names := Function.update s.names name (some s.next)
      queues := Function.update s.queues s.next (.empty maxmsg msgsize)
      next := s.next + 1 })

def mqUnlink (name : ν) (s : System ν β) : System ν β :=
  { s with names := Function.update s.names name none }

end

def put (mqd : Nat) (q : Queue β) (s : System ν β) : System ν β :=
  { s with queues := Function.update s.queues mqd q }

/-- The queue that has a name. -/
def named (s : System ν β) (name : ν) : Option (Queue β) := (s.names name).map s.queues

/-- Every name has a queue of its own. -/
structure WellFormed (s : System ν β) : Prop where
  lt_next : ∀ name mqd, s.names name = some mqd → mqd < s.next
  injective : ∀ m n mqd, s.names m = some mqd → s.names n = some mqd → m = n

/-- Only names in `N` are made, used or taken away from `s` to `t`. -/
structure Frame (N : ν → Prop) (s t : System ν β) : Prop where
  wellFormed : t.WellFormed
  names : ∀ n, ¬ N n → t.names n = s.names n
  named : ∀ n, ¬ N n → t.named n = s.named n

theorem Frame.refl {N : ν → Prop} {s : System ν β} (h : s.WellFormed) : Frame N s s :=
  ⟨h, fun _ _ => rfl, fun _ _ => rfl⟩

theorem Frame.trans {N : ν → Prop} {s t u : System ν β} (h : Frame N s t) (h' : Frame N t u) :
    Frame N s u :=
  ⟨h'.wellFormed, fun n hn => (h'.names n hn).trans (h.names n hn),
    fun n hn => (h'.named n hn).trans (h.named n hn)⟩

theorem Frame.mono {N N' : ν → Prop} {s t : System ν β} (h : Frame N s t)
    (hN : ∀ n, N n → N' n) : Frame N' s t :=
  ⟨h.wellFormed, fun n hn => h.names n fun hn' => hn (hN n hn'),
    fun n hn => h.named n fun hn' => hn (hN n hn')⟩

theorem empty_wellFormed : (empty : System ν β).WellFormed := by
  refine ⟨?_, ?_⟩
  · intro name mqd h
    cases h
  · intro m n mqd h
    cases h

section
variable {s : System ν β} {name n : ν} {mqd maxmsg msgsize : Nat} {q : Queue β}

theorem named_of_names (h : s.names name = some mqd) : s.named name = some (s.queues mqd) := by
  rw [named, h, Option.map_some]

theorem WellFormed.put (h : s.WellFormed) (mqd : Nat) (q : Queue β) : (s.put mqd q).WellFormed :=
  ⟨h.lt_next, h.injective⟩

theorem named_put_self (hn : s.names name = some mqd) : (s.put mqd q).named name = some q := by
  have hput : (s.put mqd q).names name = some mqd := hn
  rw [named_of_names hput]
  exact congrArg some (Function.update_self ..)

theorem named_put_ne (h : s.WellFormed) (hn : s.names name = some mqd) (hne : n ≠ name) :
    (s.put mqd q).named n = s.named n := by
  unfold named
  cases hm : s.names n with
  | none =>
    have hput : (s.put mqd q).names n = none := hm
    rw [hput]
    rfl
  | some other =>
    have hput : (s.put mqd q).names n = some other := hm
    have hother : other ≠ mqd := by
      rintro rfl
      exact hne (h.injective n name other hm hn)
    rw [hput]
    exact congrArg some (Function.update_of_ne hother ..)

variable [DecidableEq ν]

theorem names_mqUnlink_self : (s.mqUnlink name).names name = none := Function.update_self ..

theorem names_mqUnlink_ne (hne : n ≠ name) : (s.mqUnlink name).names n = s.names n :=
  Function.update_of_ne hne ..

theorem WellFormed.mqUnlink (h : s.WellFormed) (name : ν) : (s.mqUnlink name).WellFormed := by
  have hnames : ∀ m mqd, (s.mqUnlink name).names m = some mqd → s.names m = some mqd := by
    intro m mqd hm
    by_cases hne : m = name
    · subst hne
      rw [names_mqUnlink_self] at hm
      cases hm
    · rwa [names_mqUnlink_ne hne] at hm
  refine ⟨?_, ?_⟩
  · intro m mqd hm
    exact h.lt_next m mqd (hnames m mqd hm)
  · intro m n mqd hm hn
    exact h.injective m n mqd (hnames m mqd hm) (hnames n mqd hn)

theorem named_mqUnlink_ne (hne : n ≠ name) : (s.mqUnlink name).named n = s.named n := by
  unfold named
  rw [names_mqUnlink_ne hne]
  rfl

theorem mqOpen_new (hnew : s.names name = none) :
    s.mqOpen name maxmsg msgsize = (s.next, {
      names := Function.update s.names name (some s.next)
      queues := Function.update s.queues s.next (.empty maxmsg msgsize)
      next := s.next + 1 }) := by
  unfold mqOpen
  rw [hnew]

theorem names_mqOpen_self (hnew : s.names name = none) :
    (s.mqOpen name maxmsg msgsize).2.names name = some (s.mqOpen name maxmsg msgsize).1 := by
  rw [mqOpen_new hnew]
  exact Function.update_self ..

theorem names_mqOpen_ne (hnew : s.names name = none) (hne : n ≠ name) :
    (s.mqOpen name maxmsg msgsize).2.names n = s.names n := by
  rw [mqOpen_new hnew]
  exact Function.update_of_ne hne ..

theorem named_mqOpen_self (hnew : s.names name = none) :
    (s.mqOpen name maxmsg msgsize).2.named name = some (.empty maxmsg msgsize) := by
  rw [named_of_names (names_mqOpen_self hnew), mqOpen_new hnew]
  exact congrArg some (Function.update_self ..)

theorem named_mqOpen_ne (h : s.WellFormed) (hnew : s.names name = none) (hne : n ≠ name) :
    (s.mqOpen name maxmsg msgsize).2.named n = s.named n := by
  unfold named
  rw [names_mqOpen_ne hnew hne, mqOpen_new hnew]
  cases hm : s.names n with
  | none => rfl
  | some mqd =>
    have hlt := h.lt_next n mqd hm
    exact congrArg some (Function.update_of_ne (by omega) ..)

theorem WellFormed.mqOpen (h : s.WellFormed) (hnew : s.names name = none)
    (maxmsg msgsize : Nat) : (s.mqOpen name maxmsg msgsize).2.WellFormed := by
  have hnames : ∀ m mqd, (s.mqOpen name maxmsg msgsize).2.names m = some mqd →
      m = name ∧ mqd = s.next ∨ s.names m = some mqd := by
    intro m mqd hm
    by_cases hne : m = name
    · subst hne
      rw [names_mqOpen_self hnew, mqOpen_new hnew] at hm
      exact Or.inl ⟨rfl, (Option.some.inj hm).symm⟩
    · rw [names_mqOpen_ne hnew hne] at hm
      exact Or.inr hm
  refine ⟨?_, ?_⟩
  · intro m mqd hm
    rw [mqOpen_new hnew]
    rcases hnames m mqd hm with ⟨-, rfl⟩ | hold
    · exact Nat.lt_succ_self _
    · exact Nat.lt_succ_of_lt (h.lt_next m mqd hold)
  · intro m n mqd hm hn
    rcases hnames m mqd hm with ⟨rfl, rfl⟩ | hold
    · rcases hnames n _ hn with ⟨rfl, -⟩ | hold'
      · rfl
      · exact absurd (h.lt_next n _ hold') (Nat.lt_irrefl _)
    · rcases hnames n mqd hn with ⟨rfl, rfl⟩ | hold'
      · exact absurd (h.lt_next m _ hold) (Nat.lt_irrefl _)
      · exact h.injective m n mqd hold hold'

section
variable {N : ν → Prop}

theorem Frame.mqOpen (h : s.WellFormed) (hnew : s.names name = none) (hname : N name)
    (maxmsg msgsize : Nat) : Frame N s (s.mqOpen name maxmsg msgsize).2 := by
  have hne : ∀ n, ¬ N n → n ≠ name := by
    rintro n hn rfl
    exact hn hname
  exact ⟨h.mqOpen hnew maxmsg msgsize, fun n hn => names_mqOpen_ne hnew (hne n hn),
    fun n hn => named_mqOpen_ne h hnew (hne n hn)⟩

theorem Frame.mqUnlink (h : s.WellFormed) (hname : N name) : Frame N s (s.mqUnlink name) := by
  have hne : ∀ n, ¬ N n → n ≠ name := by
    rintro n hn rfl
    exact hn hname
  exact ⟨h.mqUnlink name, fun n hn => names_mqUnlink_ne (hne n hn),
    fun n hn => named_mqUnlink_ne (hne n hn)⟩

omit [DecidableEq ν] in
theorem Frame.put (h : s.WellFormed) (hn : s.names name = some mqd) (hname : N name)
    (q : Queue β) : Frame N s (s.put mqd q) := by
  have hne : ∀ n, ¬ N n → n ≠ name := by
    rintro n hout rfl
    exact hout hname
  exact ⟨h.put mqd q, fun _ _ => rfl, fun n hout => named_put_ne h hn (hne n hout)⟩

end

end

end System

end HexrotPxiCom.NamedQueues
