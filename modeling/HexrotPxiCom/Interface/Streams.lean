import HexrotPxiCom.Interface.Connections
import HexrotPxiCom.Interface.Outgoing

/-!
# What the client receives

The telemetry thread looks at the sign of the result of `send` only. Each connection has its
own stream of bytes, from one `accept` to the next.
-/

namespace HexrotPxiCom.CmdTlmServer

set_option autoImplicit false

open CircularBuffer

/-- The bytes that are given to a `send`, and its result. -/
structure Sent where
  msg : List UInt8
  result : Int
  deriving Repr, DecidableEq

namespace Sent

/-- The bytes that the socket takes. -/
def taken (x : Sent) : List UInt8 := x.msg.take x.result.toNat

/-- A short count. -/
def Short (x : Sent) : Prop := 0 < x.result ∧ x.result < x.msg.length

instance (x : Sent) : Decidable x.Short := inferInstanceAs (Decidable (_ ∧ _))

theorem taken_of_nonpos {x : Sent} (h : x.result ≤ 0) : x.taken = [] := by
  have hzero : x.result.toNat = 0 := by omega
  rw [taken, hzero, List.take_zero]

theorem taken_of_whole {x : Sent} (h : x.msg.length ≤ x.result) : x.taken = x.msg :=
  List.take_of_length_le (by omega)

theorem taken_eq_nil_iff {x : Sent} (h : x.msg ≠ []) : x.taken = [] ↔ x.result ≤ 0 := by
  refine ⟨?_, taken_of_nonpos⟩
  intro htaken
  rcases List.take_eq_nil_iff.mp htaken with hzero | hnil
  · omega
  · exact absurd hnil h

end Sent

def stream (sends : List Sent) : List UInt8 := sends.flatMap Sent.taken

/-- The client receives whole messages and at most one that is incomplete, the last one:
after a short count nothing is sent. -/
structure Unbroken (sends : List Sent) : Prop where
  messages : ∃ whole part, stream sends = whole.flatten ++ part ∧
    whole.Sublist (sends.map Sent.msg) ∧
    (part ≠ [] → ∃ msg, (whole ++ [msg]).Sublist (sends.map Sent.msg) ∧ part <+: msg)
  after : sends.Pairwise fun x y => x.Short → y.taken = []

/-- Only what follows a short count breaks the stream. -/
theorem unbroken_iff {sends : List Sent} :
    Unbroken sends ↔ sends.Pairwise fun x y => x.Short → y.taken = [] := by
  refine ⟨Unbroken.after, fun h => ⟨?_, h⟩⟩
  induction sends with
  | nil => exact ⟨[], [], rfl, List.Sublist.refl _, fun hne => absurd rfl hne⟩
  | cons x sends ih =>
    obtain ⟨hx, hrest⟩ := List.pairwise_cons.mp h
    obtain ⟨whole, part, hstream, hwhole, hpart⟩ := ih hrest
    have hcons : stream (x :: sends) = x.taken ++ stream sends := List.flatMap_cons
    rw [hcons, List.map_cons]
    by_cases hshort : x.Short
    · -- the incomplete message is the last one
      have hnil : stream sends = [] :=
        List.flatMap_eq_nil_iff.mpr fun y hy => hx y hy hshort
      refine ⟨[], x.taken, by rw [hnil]; simp, List.nil_sublist _, fun _ => ⟨x.msg, ?_, ?_⟩⟩
      · exact (List.nil_sublist _).cons_cons x.msg
      · exact List.take_prefix _ _
    · rcases Int.lt_or_le 0 x.result with hpos | hfail
      · have hall : (x.msg.length : Int) ≤ x.result := by
          by_contra hlt
          exact hshort ⟨hpos, by omega⟩
        rw [Sent.taken_of_whole hall]
        refine ⟨x.msg :: whole, part, ?_, hwhole.cons_cons x.msg, ?_⟩
        · rw [hstream, List.flatten_cons, List.append_assoc]
        · intro hne
          obtain ⟨msg, hmsg, hprefix⟩ := hpart hne
          exact ⟨msg, hmsg.cons_cons x.msg, hprefix⟩
      · rw [Sent.taken_of_nonpos hfail, List.nil_append]
        refine ⟨whole, part, hstream, hwhole.cons x.msg, ?_⟩
        intro hne
        obtain ⟨msg, hmsg, hprefix⟩ := hpart hne
        exact ⟨msg, hmsg.cons x.msg, hprefix⟩

theorem Unbroken.sublist {l r : List Sent} (h : Unbroken r) (hsub : l.Sublist r) : Unbroken l :=
  unbroken_iff.mpr (h.after.sublist hsub)

/-- The `send` of an event on a socket. -/
def Event.sentOn (fd : Int) : Event → Option Sent
  | .sendCmdStatus fd' msg error => if fd' = fd then some ⟨msg.toBytes, error⟩ else none
  | .sendTlm fd' msg error => if fd' = fd then some ⟨msg, error⟩ else none
  | _ => none

def sentOn (fd : Int) (es : List Event) : List Sent := es.filterMap (Event.sentOn fd)

theorem sentOn_append (fd : Int) (l r : List Event) :
    sentOn fd (l ++ r) = sentOn fd l ++ sentOn fd r := List.filterMap_append

theorem sentOn_silent {fd : Int} {es : List Event} (h : ∀ e ∈ es, e.isSend = false) :
    sentOn fd es = [] := by
  apply List.filterMap_eq_nil_iff.mpr
  intro e he
  have hsend := h e he
  cases e <;> first | rfl | cases hsend

/-- On every connection, at every moment, the client has received an unbroken stream. -/
def Streams (trace : List Event) : Prop :=
  ∀ pre fd conn post, trace = pre ++ .accept fd :: (conn ++ post) →
    (∀ e ∈ conn, e.isAccept = false) → Unbroken (sentOn fd conn)

/-- The newest connection is the one of this socket. -/
def Newest (trace : List Event) (fd : Int) : Prop :=
  ∃ pre, trace = pre ++ .accept fd :: sinceAccept trace

theorem sinceAccept_mem {l : List Event} : ∀ e ∈ sinceAccept l, e.isAccept = false := by
  intro e he
  simpa using List.mem_rtakeWhile_imp he

theorem sinceAccept_of_accept {pre conn : List Event} {fd : Int}
    (h : ∀ e ∈ conn, e.isAccept = false) : sinceAccept (pre ++ .accept fd :: conn) = conn := by
  rw [List.append_cons, sinceAccept_append h, sinceAccept_accept, List.nil_append]

section
variable {l es : List Event}

theorem Streams.nil : Streams [] := by
  intro pre fd conn post h
  simp at h

theorem Streams.of_append (h : Streams (l ++ es)) : Streams l := by
  intro pre fd conn post heq
  exact h pre fd conn (post ++ es) (by simp [heq])

/-- Events without an `accept` go on with the newest connection. -/
theorem streams_append_iff (hes : ∀ e ∈ es, e.isAccept = false) :
    Streams (l ++ es) ↔ Streams l ∧ ∀ fd, Newest l fd →
      Unbroken (sentOn fd (sinceAccept l ++ es)) := by
  constructor
  · intro h
    refine ⟨h.of_append, ?_⟩
    rintro fd ⟨pre, hl⟩
    apply h pre fd (sinceAccept l ++ es) []
    · rw [List.append_nil, ← List.cons_append, ← List.append_assoc, ← hl]
    · intro e he
      exact (List.mem_append.mp he).elim (sinceAccept_mem e) (hes e)
  · rintro ⟨h, hnewest⟩ pre fd conn post heq hconn
    rcases List.append_eq_append_iff.mp heq with ⟨as, -, htail⟩ | ⟨cs, hl, htail⟩
    · have haccept := hes (.accept fd) (by simp [htail])
      cases haccept
    · cases cs with
      | nil =>
        rw [List.nil_append] at htail
        have haccept := hes (.accept fd) (by rw [← htail]; exact List.mem_cons_self)
        cases haccept
      | cons c cs =>
        rw [List.cons_append] at htail
        obtain ⟨rfl, hconns⟩ := List.cons.inj htail
        rcases List.append_eq_append_iff.mp hconns with ⟨as, hcs, -⟩ | ⟨as, hcs, hpost⟩
        · exact h pre fd conn as (by rw [hl, hcs]) hconn
        · have hcs' : ∀ e ∈ cs, e.isAccept = false := fun e he => hconn e (by simp [hcs, he])
          have hsince : sinceAccept l = cs := by rw [hl, sinceAccept_of_accept hcs']
          apply (hnewest fd ⟨pre, by rw [hsince, hl]⟩).sublist
          rw [hsince, hcs, hpost]
          exact ((List.sublist_append_left as post).append_left cs).filterMap _

/-- A new connection has no bytes yet. -/
theorem Streams.accept (h : Streams l) (fd : Int) : Streams (l ++ [.accept fd]) := by
  intro pre fd' conn post heq hconn
  rcases List.eq_nil_or_concat post with rfl | ⟨post, x, rfl⟩
  · rcases List.eq_nil_or_concat conn with rfl | ⟨conn, x, rfl⟩
    · exact unbroken_iff.mpr .nil
    · rw [List.append_nil, List.concat_eq_append, ← List.cons_append, ← List.append_assoc] at heq
      have hlast := (List.append_inj' heq rfl).2
      have haccept := hconn x (by simp)
      rw [← List.singleton_inj.mp hlast] at haccept
      cases haccept
  · rw [List.concat_eq_append, ← List.append_assoc, ← List.cons_append, ← List.append_assoc]
      at heq
    exact h pre fd' conn post (List.append_inj' heq rfl).1 hconn

/-- Without a `send` no stream changes. -/
theorem streams_silent_iff (hes : ∀ e ∈ es, e.isSend = false) :
    Streams (l ++ es) ↔ Streams l := by
  refine ⟨Streams.of_append, fun h => ?_⟩
  induction es using List.reverseRecOn with
  | nil =>
    rw [List.append_nil]
    exact h
  | append_singleton es e ih =>
    have hl := ih fun e he => hes e (List.mem_append_left _ he)
    rw [← List.append_assoc]
    cases haccept : e.isAccept with
    | true =>
      cases e with
      | accept fd => exact hl.accept fd
      | _ => cases haccept
    | false =>
      refine (streams_append_iff (by simp [haccept])).mpr ⟨hl, ?_⟩
      rintro fd ⟨pre, hpre⟩
      have hlast : sentOn fd [e] = [] := by
        apply sentOn_silent
        intro x hx
        rw [List.mem_singleton.mp hx]
        exact hes e (by simp)
      rw [sentOn_append, hlast, List.append_nil]
      exact hl pre fd (sinceAccept (l ++ es)) [] (by rw [List.append_nil]; exact hpre)
        sinceAccept_mem

end

namespace Server

/-- A turn of the telemetry thread that comes to its two sends. -/
def Sending (s : Server) : Prop :=
  s.tlm = .loop ∧ s.info.isReadyTlm = true ∧ s.detected = false ∧
    s.info.serverStatus = .connected

instance (s : Server) : Decidable s.Sending := inferInstanceAs (Decidable (_ ∧ _ ∧ _ ∧ _))

/-- The command status that is taken from its queue, with the result of its `send`. -/
def nextCmdStatus (env : TlmEnv) (s : Server) : Option Sent :=
  (mqReceive env.mqReceiveCmdStatus s.info.msgQueueCmdStatus).map fun r =>
    ⟨r.1.toBytes, env.sendCmdStatus⟩

/-- The telemetry that is taken from its queue, when it has bytes. -/
def nextTlm (env : TlmEnv) (s : Server) : Option Sent :=
  (mqReceive env.mqReceiveTlm s.info.msgQueueTlm).bind fun r =>
    if 0 < r.1.length then some ⟨r.1, env.sendTlm⟩ else none

/-- A send on the current connection has returned a short count. -/
def Torn (s : Server) : Prop :=
  ∃ x ∈ sentOn s.info.socketConnect (sinceAccept s.trace), x.Short

instance (s : Server) : Decidable s.Torn := inferInstanceAs (Decidable (∃ x ∈ _, _))

/-- After a short count on the connection, in this turn or before, a send fails, or there is
no message for it. -/
def Heeded (s : Server) : Action → Prop
  | .tlm env => s.Sending →
      (s.Torn → ∀ x ∈ s.nextCmdStatus env, x.result ≤ 0) ∧
      ((s.Torn ∨ ∃ x ∈ s.nextCmdStatus env, x.Short) →
        (∀ y ∈ s.nextTlm env, y.result ≤ 0) ∨ ∃ x ∈ s.nextCmdStatus env, x.result < 0)
  | _ => True

instance (s : Server) : ∀ a, Decidable (s.Heeded a)
  | .tlm _ => inferInstanceAs (Decidable (_ → (_ → _) ∧ (_ → _)))
  | .run _ | .sendCmdStatus _ _ _ _ _ _ | .sendTlm _ _ | .getCmd _ | .setCommander _ | .close =>
    .isTrue trivial

/-- The sends of a turn: the command status, and the telemetry unless the first one failed. -/
def turnSends (env : TlmEnv) (s : Server) : List Sent :=
  (s.nextCmdStatus env).toList ++
    if ∃ x ∈ s.nextCmdStatus env, x.result < 0 then [] else (s.nextTlm env).toList

theorem nextCmdStatus_msg {env : TlmEnv} {s : Server} {x : Sent}
    (h : x ∈ s.nextCmdStatus env) : x.msg ≠ [] := by
  obtain ⟨r, -, rfl⟩ := Option.map_eq_some_iff.mp h
  intro hnil
  have hreason := (List.append_eq_nil_iff.mp hnil).2
  have hlength := congrArg List.length hreason
  rw [Vector.length_toList] at hlength
  exact absurd hlength (by decide)

theorem nextTlm_msg {env : TlmEnv} {s : Server} {y : Sent} (h : y ∈ s.nextTlm env) :
    y.msg ≠ [] := by
  obtain ⟨r, -, hr⟩ := Option.bind_eq_some_iff.mp h
  split at hr
  · rename_i hpos
    cases hr
    exact List.ne_nil_of_length_pos hpos
  · cases hr

theorem sendLastCmdStateInMsgQueue_sends (env : TlmEnv) (s : Server) :
    ∃ error queue msg es, s.sendLastCmdStateInMsgQueue env = (error, { s with
        info := { s.info with msgQueueCmdStatus := queue, pMsgCmdStatus := msg }
        trace := s.trace ++ es }) ∧
      (s.info.serverStatus = .connected →
        error = if ∃ x ∈ s.nextCmdStatus env, x.result < 0 then -1 else 0) ∧
      ∀ fd, sentOn fd es = if s.info.serverStatus = .connected ∧ fd = s.info.socketConnect
        then (s.nextCmdStatus env).toList else [] := by
  unfold sendLastCmdStateInMsgQueue nextCmdStatus
  split
  · rename_i hmq
    refine ⟨0, s.info.msgQueueCmdStatus, s.info.pMsgCmdStatus, [], by simp, by simp [hmq], ?_⟩
    intro fd
    simp [hmq, sentOn]
  · rename_i msg queue hmq
    dsimp only
    split
    · rename_i hstatus
      refine ⟨_, some queue, some msg, [_], rfl, by simp [hmq], ?_⟩
      intro fd
      by_cases hfd : fd = s.info.socketConnect
      · simp [sentOn, Event.sentOn, hmq, hstatus, hfd]
      · simp [sentOn, Event.sentOn, hfd, Ne.symm hfd]
    · rename_i hstatus
      refine ⟨0, some queue, some msg, [], by simp, fun hc => absurd hc hstatus, ?_⟩
      intro fd
      simp [sentOn, hstatus]

theorem sendLastTlmInMsgQueue_sends (env : TlmEnv) (s : Server) :
    ∃ error queue msg es, s.sendLastTlmInMsgQueue env = (error, { s with
        info := { s.info with msgQueueTlm := queue, pMsgTlm := msg }
        trace := s.trace ++ es }) ∧
      ∀ fd, sentOn fd es = if s.info.serverStatus = .connected ∧ fd = s.info.socketConnect
        then (s.nextTlm env).toList else [] := by
  unfold sendLastTlmInMsgQueue nextTlm
  split
  · rename_i hmq
    refine ⟨0, s.info.msgQueueTlm, s.info.pMsgTlm, [], by simp, ?_⟩
    intro fd
    simp [hmq, sentOn]
  · rename_i msg queue hmq
    dsimp only
    rw [take_overwrite]
    split
    · rename_i hsend
      obtain ⟨hpos, hstatus⟩ := hsend
      refine ⟨_, some queue, some _, [_], rfl, ?_⟩
      intro fd
      by_cases hfd : fd = s.info.socketConnect
      · simp [sentOn, Event.sentOn, hmq, hpos, hstatus, hfd]
      · simp [sentOn, Event.sentOn, hfd, Ne.symm hfd]
    · rename_i hsend
      refine ⟨0, some queue, some (overwrite msg (s.info.pMsgTlm.getD [])), [], by simp, ?_⟩
      intro fd
      by_cases hstatus : s.info.serverStatus = .connected
      · have hempty : ¬ 0 < msg.length := fun hpos => hsend ⟨hpos, hstatus⟩
        simp [sentOn, hmq, hempty]
      · simp [sentOn, hstatus]

/-- The first `send` of a turn, which follows the update of `lastServerStatus`. -/
theorem tlmTurn_sendsCmdStatus (env : TlmEnv) (s : Server) :
    ∃ error queue msg es, s.updateLastServerStatus.sendLastCmdStateInMsgQueue env =
      (error, { s with
        info := { s.info with
          isCloseConnDetected := s.detected
          msgQueueCmdStatus := queue
          pMsgCmdStatus := msg }
        lastServerStatus := s.info.serverStatus
        trace := s.trace ++ es }) ∧
      (s.info.serverStatus = .connected →
        error = if ∃ x ∈ s.nextCmdStatus env, x.result < 0 then -1 else 0) ∧
      ∀ fd, sentOn fd es = if s.info.serverStatus = .connected ∧ fd = s.info.socketConnect
        then (s.nextCmdStatus env).toList else [] := by
  rw [updateLastServerStatus_eq]
  exact sendLastCmdStateInMsgQueue_sends env { s with
    info := { s.info with isCloseConnDetected := s.detected }
    lastServerStatus := s.info.serverStatus }

theorem tlmTurn_sends (env : TlmEnv) (s : Server) :
    ∃ es, (s.tlmTurn env).trace = s.trace ++ es ∧
      ∀ fd, sentOn fd es =
        if s.detected = false ∧ s.info.serverStatus = .connected ∧ fd = s.info.socketConnect
        then s.turnSends env else [] := by
  generalize hturn : s.tlmTurn env = v
  have hcases := tlmTurn_turn env s
  rw [hturn] at hcases
  cases hcases with
  | detected hd =>
    rw [updateLastServerStatus_eq, hd]
    exact ⟨[], by simp, by simp [sentOn]⟩
  | cmdStatusFailed t hd h1 =>
    obtain ⟨error1, queue1, msg1, es1, heq1, herror1, hes1⟩ :=
      tlmTurn_sendsCmdStatus env s
    rw [h1] at heq1
    cases heq1
    refine ⟨es1, rfl, ?_⟩
    intro fd
    rw [hes1, hd]
    split
    · rename_i hsend
      have hfirst : ∃ x ∈ s.nextCmdStatus env, x.result < 0 := by
        by_contra hfail
        have hzero := herror1 hsend.1
        rw [if_neg hfail] at hzero
        cases hzero
      rw [if_pos ⟨rfl, hsend⟩, turnSends, if_pos hfirst, List.append_nil]
    · rename_i hsend
      rw [if_neg fun h => hsend h.2]
  | both t u error hd h1 h2 =>
    obtain ⟨error1, queue1, msg1, es1, heq1, herror1, hes1⟩ :=
      tlmTurn_sendsCmdStatus env s
    obtain ⟨error2, queue2, msg2, es2, heq2, hes2⟩ := sendLastTlmInMsgQueue_sends env t
    rw [h2] at heq2
    rw [h1] at heq1
    cases heq1
    cases heq2
    change ∀ fd, sentOn fd es2 = if s.info.serverStatus = .connected ∧ fd = s.info.socketConnect
      then (s.nextTlm env).toList else [] at hes2
    refine ⟨es1 ++ es2, by split <;> exact List.append_assoc _ _ _, ?_⟩
    intro fd
    rw [sentOn_append, hes1, hes2, hd]
    split
    · rename_i hsend
      have hfirst : ¬ ∃ x ∈ s.nextCmdStatus env, x.result < 0 := by
        intro hfail
        have hfailed := herror1 hsend.1
        rw [if_pos hfail] at hfailed
        cases hfailed
      rw [if_pos ⟨rfl, hsend⟩, turnSends, if_neg hfirst]
    · rename_i hsend
      rw [if_neg fun h => hsend h.2, List.append_nil]

theorem sendTlmAndCmdStatus_sends {env : TlmEnv} {s t : Server}
    (h : s.sendTlmAndCmdStatus env = some t) : ∃ es, t.trace = s.trace ++ es ∧
      ∀ fd, sentOn fd es =
        if s.Sending ∧ fd = s.info.socketConnect then s.turnSends env else [] := by
  unfold sendTlmAndCmdStatus at h
  split at h
  · rename_i htlm
    cases h
    refine ⟨[], by split <;> simp, ?_⟩
    intro fd
    rw [if_neg]
    · rfl
    · rintro ⟨hsending, -⟩
      cases htlm.symm.trans hsending.1
  · rename_i htlm
    cases h
    cases hready : s.info.isReadyTlm with
    | true =>
      rw [if_pos rfl]
      obtain ⟨es, htrace, hes⟩ := tlmTurn_sends env s
      refine ⟨es, htrace, ?_⟩
      intro fd
      have hiff : s.Sending ∧ fd = s.info.socketConnect ↔ s.detected = false ∧
          s.info.serverStatus = .connected ∧ fd = s.info.socketConnect := by
        simp [Sending, htlm, hready, and_assoc]
      rw [hes]
      simp only [hiff]
    | false =>
      refine ⟨[], by simp, ?_⟩
      intro fd
      rw [if_neg]
      · rfl
      · rintro ⟨hsending, -⟩
        cases hready.symm.trans hsending.2.1
  · cases h

/-- The turn keeps the stream of its connection unbroken exactly when it heeds a short
count. -/
theorem heeded_iff {env : TlmEnv} {s : Server} (hsending : s.Sending)
    (hbefore : Unbroken (sentOn s.info.socketConnect (sinceAccept s.trace))) :
    s.Heeded (.tlm env) ↔ Unbroken (sentOn s.info.socketConnect (sinceAccept s.trace) ++
      s.turnSends env) := by
  have hcmdStatus : ∀ x ∈ s.nextCmdStatus env, x.taken = [] ↔ x.result ≤ 0 :=
    fun x hx => Sent.taken_eq_nil_iff (nextCmdStatus_msg hx)
  have htlm : ∀ y ∈ s.nextTlm env, y.taken = [] ↔ y.result ≤ 0 :=
    fun y hy => Sent.taken_eq_nil_iff (nextTlm_msg hy)
  have htorn : s.Torn ↔
      ∃ x ∈ sentOn s.info.socketConnect (sinceAccept s.trace), x.Short := Iff.rfl
  have hheeded : s.Heeded (.tlm env) ↔
      (s.Torn → ∀ x ∈ s.nextCmdStatus env, x.result ≤ 0) ∧
      ((s.Torn ∨ ∃ x ∈ s.nextCmdStatus env, x.Short) →
        (∀ y ∈ s.nextTlm env, y.result ≤ 0) ∨ ∃ x ∈ s.nextCmdStatus env, x.result < 0) :=
    ⟨fun h => h hsending, fun h _ => h⟩
  rw [hheeded, htorn, unbroken_iff, List.pairwise_append, turnSends]
  rw [unbroken_iff] at hbefore
  generalize sentOn s.info.socketConnect (sinceAccept s.trace) = before at *
  generalize s.nextCmdStatus env = first at *
  generalize s.nextTlm env = second at *
  cases first with
  | none =>
    cases second with
    | none => simp [hbefore]
    | some y =>
      have hy := htlm y rfl
      simp [hbefore, hy]
  | some x =>
    have hx := hcmdStatus x rfl
    by_cases hfail : x.result < 0
    · have hnonpos : x.result ≤ 0 := by omega
      simp [hbefore, hfail, hx, hnonpos]
    · cases second with
      | none => simp [hbefore, hfail, hx]
      | some y =>
        have hy := htlm y rfl
        have hboth : ((∃ a ∈ before, a.Short) → x.result ≤ 0) ∧
            ((∃ a ∈ before, a.Short) ∨ x.Short → y.result ≤ 0) ↔
            (x.Short → y.result ≤ 0) ∧
              ∀ a ∈ before, a.Short → x.result ≤ 0 ∧ y.result ≤ 0 := by
          constructor
          · rintro ⟨h1, h2⟩
            exact ⟨fun h => h2 (Or.inr h),
              fun a ha h => ⟨h1 ⟨a, ha, h⟩, h2 (Or.inl ⟨a, ha, h⟩)⟩⟩
          · rintro ⟨h1, h2⟩
            exact ⟨fun ⟨a, ha, h⟩ => (h2 a ha h).1,
              fun h => h.elim (fun ⟨a, ha, h⟩ => (h2 a ha h).2) h1⟩
        simpa [hbefore, hfail, hx, hy, imp_and] using hboth

/-- The newest connection is on `socketConnect` as long as the server is connected. -/
structure OnNewest (s : Server) : Prop where
  waits : s.CloseWaits
  done : s.server = .done → s.info.serverStatus ≠ .connected
  newest : s.info.serverStatus = .connected → Newest s.trace s.info.socketConnect

namespace OnNewest

variable {s t : Server}

/-- A step that accepts nothing and leaves the connection as it is. -/
theorem keep (h : s.OnNewest) (es : List Event) (htrace : t.trace = s.trace ++ es)
    (hes : ∀ e ∈ es, e.isAccept = false) (hwaits : t.CloseWaits)
    (hdone : t.server = .done → s.server = .done)
    (hstatus : t.info.serverStatus = s.info.serverStatus)
    (hfd : t.info.socketConnect = s.info.socketConnect) : t.OnNewest := by
  refine ⟨hwaits, ?_, ?_⟩
  · rw [hstatus]
    exact fun hc => h.done (hdone hc)
  · rw [hstatus, hfd, htrace]
    intro hc
    obtain ⟨pre, hpre⟩ := h.newest hc
    refine ⟨pre, ?_⟩
    rw [sinceAccept_append hes, ← List.cons_append, ← List.append_assoc, ← hpre]

/-- A step after which the server is not connected. -/
theorem apart (hwaits : t.CloseWaits) (hstatus : t.info.serverStatus ≠ .connected) :
    t.OnNewest :=
  ⟨hwaits, fun _ => hstatus, fun hc => absurd hc hstatus⟩

theorem run {env : RunEnv} (h : s.OnNewest) (hturn : RunTurn env s t) : t.OnNewest := by
  cases hturn with
  | wait hserver =>
    split
    · exact h.keep [] (by simp) (by simp) (h.waits.keep rfl rfl (by simp [hserver])) (by simp)
        rfl rfl
    · exact h
  | leave hserver hready =>
    obtain ⟨_, _, _, _, es, hclose, -⟩ := basicClose_cases s
    refine apart ?_ (by simp)
    rw [hclose]
    exact h.waits.keep rfl rfl fun _ => rfl
  | exited | nothing => exact h
  | noClient hloop hstatus =>
    exact apart (h.waits.keep rfl rfl id) (by simp [hstatus])
  | refused => exact apart (h.waits.keep rfl rfl id) (by simp [closeConn])
  | connected fd hloop hstatus hfd hne hopt =>
    refine ⟨h.waits.keep rfl rfl id, fun hc => ?_, fun _ => ⟨s.trace, ?_⟩⟩
    · cases hloop.1.symm.trans hc
    · simp only [emit_trace]
      rw [sinceAccept_append (by simp [Event.isAccept]), sinceAccept_accept]
      simp
  | dropped => exact apart (h.waits.keep rfl rfl id) (by simp [closeConn])
  | ended => exact apart (h.waits.keep rfl rfl id) (by simp [closeConn])
  | command bytes t hloop hstatus hflag hrecv hpos hcmd =>
    rcases handleCmd_cases hcmd with ⟨r, -, -, rfl⟩ | ⟨error, queue, -, -, rfl⟩
    · exact h.keep _ (by simp; rfl) (by simp [Event.isAccept]) (h.waits.keep rfl rfl id) id rfl rfl
    · exact h.keep _ (by simp; rfl) (by simp [Event.isAccept]) (h.waits.keep rfl rfl id) id rfl rfl

theorem tlm {env : TlmEnv} (h : s.OnNewest) (hstep : s.sendTlmAndCmdStatus env = some t) :
    t.OnNewest := by
  unfold sendTlmAndCmdStatus at hstep
  split at hstep
  · cases hstep
    split
    · exact h.keep [] (by simp) (by simp) (h.waits.keep rfl rfl id) id rfl rfl
    · exact h
  · cases hstep
    split
    · obtain ⟨_, _, _, _, _, es, hturn, hes, -⟩ := tlmTurn_cases env s
      rw [hturn]
      refine h.keep es rfl ?_ (h.waits.keep rfl rfl id) id rfl rfl
      intro e he
      have hsend := hes e he
      cases e <;> first | rfl | cases hsend
    · exact h.keep [] (by simp) (by simp) (h.waits.keep rfl rfl id) id rfl rfl
  · cases hstep

theorem close (h : s.OnNewest) (hstep : s.close = some t) : t.OnNewest := by
  have hwaits := h.waits.close hstep
  rcases close_cases hstep with ⟨es, _, _, _, rfl, -, hes⟩ | ⟨hclosing, rfl⟩
  · refine h.keep es rfl ?_ hwaits id rfl rfl
    rcases hes with ⟨-, rfl⟩ | ⟨-, rfl⟩
    · simp [Event.isAccept]
    · simp
  · -- the server thread has ended before its information is closed
    have hdone := h.done (h.waits.done (Or.inl hclosing))
    obtain ⟨_, _, _, _, es, hclose, -⟩ := basicClose_cases s
    refine apart hwaits ?_
    rw [hclose]
    exact hdone

theorem step {a : Action} (h : s.OnNewest) (hstep : s.step a = some t) : t.OnNewest := by
  cases a with
  | run env => exact h.run (run_turn hstep)
  | tlm env => exact h.tlm hstep
  | sendCmdStatus ok cmdStatusSend counter cmdStatus duration pReason =>
    cases hstep
    exact h.keep [] (by simp) (by simp) (h.waits.keep rfl rfl id) id rfl rfl
  | sendTlm ok msg =>
    cases hstep
    exact h.keep [] (by simp) (by simp) (h.waits.keep rfl rfl id) id rfl rfl
  | getCmd data =>
    obtain ⟨r, hget, rfl⟩ := Option.map_eq_some_iff.mp hstep
    exact h.keep [] (by simp) (by simp) (h.waits.keep rfl rfl id) id rfl rfl
  | setCommander isCommander =>
    cases hstep
    exact h.keep [] (by simp) (by simp) (h.waits.keep rfl rfl id) id rfl rfl
  | close => exact h.close hstep

end OnNewest

/-- Only the telemetry thread sends. -/
theorem step_silent {a : Action} {s t : Server} (hstep : s.step a = some t)
    (hother : ∀ env, a ≠ .tlm env) :
    ∃ es, t.trace = s.trace ++ es ∧ ∀ e ∈ es, e.isSend = false := by
  cases a with
  | run env =>
    cases run_turn hstep with
    | wait hserver => exact ⟨[], by split <;> simp, by simp⟩
    | leave hserver hready =>
      obtain ⟨_, _, _, _, es, hclose, hes⟩ := basicClose_cases s
      refine ⟨es, by rw [hclose], ?_⟩
      intro e he
      obtain ⟨fd, rfl⟩ := hes e he
      rfl
    | exited | noClient | nothing => exact ⟨[], by simp, by simp⟩
    | refused fd => exact ⟨[.accept fd, .close fd], by simp [emit], by simp [Event.isSend]⟩
    | connected fd => exact ⟨[.accept fd, .connect], by simp, by simp [Event.isSend]⟩
    | dropped => exact ⟨[_], rfl, by simp [Event.isSend]⟩
    | ended => exact ⟨[.recvZero, .close s.info.socketConnect], by simp, by simp [Event.isSend]⟩
    | command bytes t hloop hstatus hflag hrecv hpos hcmd =>
      rcases handleCmd_cases hcmd with ⟨r, -, -, rfl⟩ | ⟨error, queue, -, -, rfl⟩
      · exact ⟨_, by simp; rfl, by simp [Event.isSend]⟩
      · exact ⟨_, by simp; rfl, by simp [Event.isSend]⟩
  | tlm env => exact absurd rfl (hother env)
  | sendCmdStatus ok cmdStatusSend counter cmdStatus duration pReason =>
    cases hstep
    exact ⟨[], by simp, by simp⟩
  | sendTlm ok msg =>
    cases hstep
    exact ⟨[], by simp, by simp⟩
  | getCmd data =>
    obtain ⟨r, hget, rfl⟩ := Option.map_eq_some_iff.mp hstep
    exact ⟨[], by simp, by simp⟩
  | setCommander isCommander =>
    cases hstep
    exact ⟨[], by simp, by simp⟩
  | close =>
    obtain ⟨es, htrace, hes, -⟩ := close_effect hstep
    refine ⟨es, htrace, ?_⟩
    intro e he
    rcases hes e he with rfl | ⟨fd, rfl⟩
    · rfl
    · rfl

/-- One step keeps the streams unbroken exactly when it heeds a short count. -/
theorem step_streams_iff {a : Action} {s t : Server} (h : s.OnNewest) (hstep : s.step a = some t) :
    Streams t.trace ↔ Streams s.trace ∧ s.Heeded a := by
  by_cases htlm : ∃ env, a = .tlm env
  · obtain ⟨env, rfl⟩ := htlm
    obtain ⟨es, htrace, hsends⟩ := sendTlmAndCmdStatus_sends hstep
    obtain ⟨es', htrace', hes', -⟩ := sendTlmAndCmdStatus_effect hstep
    have heq : es' = es := List.append_cancel_left (htrace'.symm.trans htrace)
    subst heq
    have haccept : ∀ e ∈ es', e.isAccept = false := by
      intro e he
      have hsend := hes' e he
      cases e <;> first | rfl | cases hsend
    rw [htrace, streams_append_iff haccept]
    refine and_congr_right fun hstreams => ?_
    -- what has been sent on the newest connection before this turn
    have hbefore (fd : Int) (hnewest : Newest s.trace fd) :
        Unbroken (sentOn fd (sinceAccept s.trace)) := by
      obtain ⟨pre, hpre⟩ := hnewest
      exact hstreams pre fd (sinceAccept s.trace) [] (by rw [List.append_nil]; exact hpre)
        sinceAccept_mem
    constructor
    · intro hafter hsending
      have hnewest := h.newest hsending.2.2.2
      have hconn := hafter s.info.socketConnect hnewest
      rw [sentOn_append, hsends, if_pos ⟨hsending, rfl⟩] at hconn
      exact (heeded_iff hsending (hbefore _ hnewest)).mpr hconn hsending
    · intro hheeded fd hnewest
      rw [sentOn_append, hsends]
      split
      · rename_i hsend
        obtain ⟨hsending, rfl⟩ := hsend
        exact (heeded_iff hsending (hbefore _ hnewest)).mp hheeded
      · rw [List.append_nil]
        exact hbefore fd hnewest
  · obtain ⟨es, htrace, hes⟩ := step_silent hstep fun env heq => htlm ⟨env, heq⟩
    have hheeded : s.Heeded a := by
      cases a with
      | tlm env => exact absurd ⟨env, rfl⟩ htlm
      | _ => trivial
    rw [htrace, streams_silent_iff hes]
    exact ⟨fun hstreams => ⟨hstreams, hheeded⟩, And.left⟩

theorem run_streams_iff {as : List Action} {s t : Server} (h : s.OnNewest)
    (hrun : Runs.run Server.step s as = some t) :
    Streams t.trace ↔ Streams s.trace ∧ Runs.Guarded Server.step Heeded s as := by
  induction as generalizing s with
  | nil =>
    cases hrun
    exact ⟨fun hstreams => ⟨hstreams, trivial⟩, And.left⟩
  | cons a as ih =>
    obtain ⟨v, hv, hrun⟩ := Runs.run_cons_eq_some.mp hrun
    have hguard : Runs.Guarded Server.step Heeded s (a :: as) ↔
        s.Heeded a ∧ Runs.Guarded Server.step Heeded v as := by
      rw [Runs.Guarded, hv]
    rw [ih (h.step hv) hrun, step_streams_iff h hv, hguard, and_assoc]

end Server

/-- What the clients receive are whole messages, up to one incomplete last message on each
connection, exactly when no send after a short count takes any bytes. -/
theorem streams_unbroken_iff {sizeMsgTlm maxNumQueueTlm : Nat} {socketListen fdsFd : Int}
    {cmdMsgBuffer : CircularBuf} {s t : Server} {as : List Action}
    (hstart : s = .start fdsFd (.init sizeMsgTlm socketListen maxNumQueueTlm cmdMsgBuffer))
    (hrun : Runs.run Server.step s as = some t) :
    Streams t.trace ↔ Runs.Guarded Server.step Server.Heeded s as := by
  subst hstart
  have hnewest : (Server.start fdsFd
      (.init sizeMsgTlm socketListen maxNumQueueTlm cmdMsgBuffer)).OnNewest := by
    refine .apart ⟨fun _ => rfl, ?_⟩ (by simp [Server.start, ServerInfo.init])
    simp [Server.start]
  rw [Server.run_streams_iff hnewest hrun]
  exact ⟨And.right, fun hguard => ⟨Streams.nil, hguard⟩⟩

/-- A command status and a telemetry message are queued on a connection. -/
def queueBoth : List Action :=
  connects ++ [.sendCmdStatus true default 1 1 0 [], .sendTlm true [1, 2, 3]]

/-- The command status is sent in part, and the next send fails. -/
theorem streams_unbroken_part : ∃ t,
    Runs.run Server.step started (queueBoth ++ [.tlm { sendCmdStatus := 10, sendTlm := -1 }]) =
      some t ∧
    (sentOn 5 t.trace).map Sent.result = [10, -1] ∧ Streams t.trace := by
  have hrun : (Runs.run Server.step started
      (queueBoth ++ [.tlm { sendCmdStatus := 10, sendTlm := -1 }])).any (fun t =>
        (sentOn 5 t.trace).map Sent.result == [10, -1]) = true := by
    decide +kernel
  obtain ⟨t, ht, hresults⟩ := (Option.any_eq_true _ _).mp hrun
  exact ⟨t, ht, beq_iff_eq.mp hresults,
    (streams_unbroken_iff rfl ht).mpr (by decide +kernel)⟩

/-- The telemetry is sent whole after the command status was sent in part. -/
theorem streams_not_unbroken : ∃ t conn,
    Runs.run Server.step started (queueBoth ++ [.tlm { sendCmdStatus := 10, sendTlm := 3 }]) =
      some t ∧
    t.trace = .accept 5 :: conn ∧
    (sentOn 5 conn).map (fun x => (x.msg.length, x.result)) = [(86, 10), (3, 3)] ∧
    ¬ Streams t.trace := by
  have hrun : (Runs.run Server.step started
      (queueBoth ++ [.tlm { sendCmdStatus := 10, sendTlm := 3 }])).any (fun t =>
        t.trace == .accept 5 :: t.trace.tail && (t.trace.tail.all fun e => !e.isAccept) &&
          (sentOn 5 t.trace.tail).map (fun x => (x.msg.length, x.result)) ==
            [(86, 10), (3, 3)]) = true := by
    decide +kernel
  obtain ⟨t, ht, hall⟩ := (Option.any_eq_true _ _).mp hrun
  simp only [Bool.and_eq_true, beq_iff_eq, List.all_eq_true, Bool.not_eq_true'] at hall
  obtain ⟨⟨htrace, hconn⟩, hsends⟩ := hall
  refine ⟨t, t.trace.tail, ht, htrace, hsends, ?_⟩
  intro hstreams
  have hunbroken := hstreams [] 5 t.trace.tail []
    (by rw [List.append_nil, List.nil_append]; exact htrace) hconn
  obtain ⟨x, rest, hsplit, hx, hrest⟩ := List.map_eq_cons_iff.mp hsends
  obtain ⟨y, rest', rfl, hy, -⟩ := List.map_eq_cons_iff.mp hrest
  simp only [Prod.mk.injEq] at hx hy
  rw [hsplit] at hunbroken
  have hshort : x.Short := by
    unfold Sent.Short
    omega
  -- three bytes follow a short count
  have htaken := (List.pairwise_cons.mp hunbroken.after).1 y List.mem_cons_self hshort
  have hlength := congrArg List.length htaken
  simp [Sent.taken, hy] at hlength

end HexrotPxiCom.CmdTlmServer
