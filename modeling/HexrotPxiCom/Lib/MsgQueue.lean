import Mathlib.Data.List.Basic

/-!
# A bounded queue of messages

A POSIX message queue in non-blocking mode, all messages of the same priority: the oldest
message leaves first, and a full queue takes no message.
-/

namespace HexrotPxiCom

set_option autoImplicit false

universe u
variable {α : Type u}

structure MsgQueue (α : Type u) where
  maxmsg : Nat
  msgs : List α
  bounded : msgs.length ≤ maxmsg

namespace MsgQueue

def empty (maxmsg : Nat) : MsgQueue α := ⟨maxmsg, [], Nat.zero_le _⟩

/-- `none`: the queue is full. -/
def send (q : MsgQueue α) (a : α) : Option (MsgQueue α) :=
  if h : q.msgs.length < q.maxmsg then
    some ⟨q.maxmsg, q.msgs ++ [a], by rw [List.length_append]; exact h⟩
  else none

/-- `none`: the queue is empty. -/
def receive (q : MsgQueue α) : Option (α × MsgQueue α) :=
  match q with
  | ⟨_, [], _⟩ => none
  | ⟨maxmsg, a :: msgs, h⟩ => some (a, ⟨maxmsg, msgs, Nat.le_of_succ_le h⟩)

theorem send_msgs {q r : MsgQueue α} {a : α} (h : q.send a = some r) :
    r.msgs = q.msgs ++ [a] := by
  unfold send at h
  split at h
  · cases h
    rfl
  · cases h

theorem receive_msgs {q r : MsgQueue α} {a : α} (h : q.receive = some (a, r)) :
    q.msgs = a :: r.msgs := by
  obtain ⟨maxmsg, msgs, hb⟩ := q
  cases msgs with
  | nil => cases h
  | cons b msgs =>
    cases h
    rfl

theorem send_maxmsg {q r : MsgQueue α} {a : α} (h : q.send a = some r) : r.maxmsg = q.maxmsg := by
  unfold send at h
  split at h
  · cases h
    rfl
  · cases h

theorem send_isSome_iff (q : MsgQueue α) (a : α) :
    (q.send a).isSome = true ↔ q.msgs.length < q.maxmsg := by
  unfold send
  split
  · rename_i hroom
    exact ⟨fun _ => hroom, fun _ => rfl⟩
  · rename_i hfull
    exact ⟨fun h => absurd h (by simp), fun h => absurd h hfull⟩

theorem receive_maxmsg {q r : MsgQueue α} {a : α} (h : q.receive = some (a, r)) :
    r.maxmsg = q.maxmsg := by
  obtain ⟨maxmsg, msgs, hb⟩ := q
  cases msgs with
  | nil => cases h
  | cons b msgs =>
    cases h
    rfl

end MsgQueue

end HexrotPxiCom
