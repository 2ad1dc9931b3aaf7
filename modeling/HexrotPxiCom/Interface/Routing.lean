import HexrotPxiCom.Interface.Framing

/-!
# The routing of the commands

Over any run of the loop of `cmdTlmServer_run`, through connections, disconnections and
changes of `isCommander`: which of the received commands go into the buffer, where they stay in
their order until they are taken out or overwritten, and which are answered with NotOK. A turn
reads `isCommander` once, so a change during the turn is a change before or after it.
-/

namespace HexrotPxiCom.CmdTlmServer

set_option autoImplicit false

open CircularBuffer

/-- The commands that the loop puts into `cmdMsgBuffer`. -/
def putCmds (trace : List Event) : List CommandStream :=
  trace.filterMap fun
    | .put cmdMsg => some cmdMsg
    | _ => none

/-- The command statuses that the loop gives to `mq_send`. -/
def answers (trace : List Event) : List CommandStatus :=
  trace.filterMap fun
    | .notOK cmdStatus _ => some cmdStatus
    | _ => none

theorem putCmds_append (l r : List Event) : putCmds (l ++ r) = putCmds l ++ putCmds r :=
  List.filterMap_append

theorem answers_append (l r : List Event) : answers (l ++ r) = answers l ++ answers r :=
  List.filterMap_append

section
variable {es : List Event}

theorem putCmds_quiet (h : ∀ e ∈ es, e.isQuiet = true) : putCmds es = [] := by
  apply filterMap_quiet _ h
  intro e he
  cases e <;> first | rfl | cases he

theorem answers_quiet (h : ∀ e ∈ es, e.isQuiet = true) : answers es = [] := by
  apply filterMap_quiet _ h
  intro e he
  cases e <;> first | rfl | cases he

end

/-- Who may command: the GUI, and the CSC while it is the commander. -/
def permitted (c : CommandStream × Bool) : Bool :=
  c.1.commander == Commander.gui.toUInt32 || (c.1.commander == Commander.csc.toUInt32 && c.2)

/-- What an answer says: its frame, its counter and its status. -/
def answerKey (m : CommandStatus) : UInt32 × UInt32 × UInt32 :=
  (m.header.frameId, m.header.counter, m.cmdStatus)

/-- The NotOK for a command. -/
def notOKKey (c : CommandStream × Bool) : UInt32 × UInt32 × UInt32 :=
  (FrameId.cmdStatus.toUInt32, c.1.counter, CmdStatus.notOK.toUInt32)

theorem isCmdAuthorized_eq_permitted (cmdStatus : CommandStatus) (cmdMsg : CommandStream)
    (isCommander : Bool) :
    (isCmdAuthorized cmdStatus cmdMsg isCommander).1 = permitted (cmdMsg, isCommander) := by
  unfold isCmdAuthorized permitted
  cases hgui : cmdMsg.commander == Commander.gui.toUInt32 with
  | true =>
    have hcsc : (cmdMsg.commander == Commander.csc.toUInt32) = false := by
      rw [beq_iff_eq.mp hgui]
      rfl
    simp [hcsc]
  | false =>
    cases hcsc : cmdMsg.commander == Commander.csc.toUInt32 <;> cases isCommander <;> simp

theorem isCmdAuthorized_answer {cmdStatus : CommandStatus} {cmdMsg : CommandStream}
    {isCommander : Bool} (h : (isCmdAuthorized cmdStatus cmdMsg isCommander).1 = false) :
    answerKey (isCmdAuthorized cmdStatus cmdMsg isCommander).2 =
      notOKKey (cmdMsg, isCommander) := by
  rw [isCmdAuthorized_eq_permitted] at h
  unfold permitted at h
  unfold isCmdAuthorized
  cases hgui : cmdMsg.commander == Commander.gui.toUInt32 with
  | true => simp [hgui] at h
  | false =>
    cases hcsc : cmdMsg.commander == Commander.csc.toUInt32 with
    | false => simp [answerKey, notOKKey]
    | true =>
      cases isCommander with
      | false => simp [answerKey, notOKKey]
      | true => simp [hcsc] at h

theorem permitted_commander {c : CommandStream × Bool} (h : permitted c = true) :
    c.1.commander = Commander.gui.toUInt32 ∨ c.1.commander = Commander.csc.toUInt32 := by
  unfold permitted at h
  rw [Bool.or_eq_true, Bool.and_eq_true] at h
  rcases h with h | ⟨h, -⟩
  · exact Or.inl (beq_iff_eq.mp h)
  · exact Or.inr (beq_iff_eq.mp h)

/-- `circular_buf_put` and `circular_buf_get` have made `t` of `cbuf`, the puts were those of `cmds`
in their order, and what `t` holds and the gets have returned is what a queue that drops its oldest
command holds and returns. -/
def Fed (cbuf t : CircularBuf) (cmds : List CommandStream) : Prop :=
  ∃ ops rs, calls cbuf ops = some (rs, t) ∧ BoundedFifo.puts (ops.map Prod.snd) = cmds ∧
    ∀ n q, 1 ≤ n → Queued n cbuf q → rs = (BoundedFifo.results n q (ops.map Prod.snd)).1 ∧
      Queued n t (BoundedFifo.results n q (ops.map Prod.snd)).2

theorem Fed.of_calls {cbuf t : CircularBuf} {ops : List (Nat × BoundedFifo.Op CommandStream)}
    {rs : List (BoundedFifo.Result CommandStream)} (hcalls : calls cbuf ops = some (rs, t)) :
    Fed cbuf t (BoundedFifo.puts (ops.map Prod.snd)) :=
  ⟨ops, rs, hcalls, rfl, fun _ _ hn hqueued => hqueued.calls_eq hn hcalls⟩

theorem Fed.call {cbuf t u : CircularBuf} {cmds : List CommandStream} (h : Fed cbuf t cmds)
    {i : Nat} {op : BoundedFifo.Op CommandStream} {r : BoundedFifo.Result CommandStream}
    (hcall : call t (i, op) = some (r, u)) : Fed cbuf u (cmds ++ BoundedFifo.puts [op]) := by
  obtain ⟨ops, rs, hcalls, rfl, -⟩ := h
  have hmore : calls cbuf (ops ++ [(i, op)]) = some (rs ++ [r], u) := by
    rw [calls_append hcalls]
    simp [calls, hcall]
  have hfed := Fed.of_calls hmore
  rw [List.map_append, BoundedFifo.puts_append] at hfed
  exact hfed

/-- The checked commands are put into the buffer `cbuf` or answered, each once and in order. -/
structure Routed (cbuf : CircularBuf) (t : Server) : Prop where
  put : putCmds t.trace = ((checked t.trace).filter permitted).map Prod.fst
  answered : (answers t.trace).map answerKey =
    ((checked t.trace).filter fun c => !permitted c).map notOKKey
  buffer : Fed cbuf t.info.cmdMsgBuffer (putCmds t.trace)

namespace Routed

variable {cbuf : CircularBuf} {s t : Server}

theorem step {a : Action} (h : Routed cbuf s) (hstep : s.step a = some t) : Routed cbuf t := by
  have hfed := h.buffer
  obtain ⟨es, htrace, heffect⟩ := Server.step_effect hstep
  cases heffect with
  | quiet es hquiet hbuffer =>
    refine ⟨?_, ?_, ?_⟩
    · rw [htrace, putCmds_append, checked_append, putCmds_quiet hquiet, checked_quiet hquiet,
        List.append_nil, List.append_nil]
      exact h.put
    · rw [htrace, answers_append, checked_append, answers_quiet hquiet, checked_quiet hquiet,
        List.append_nil, List.append_nil]
      exact h.answered
    · rw [htrace, hbuffer, putCmds_append, putCmds_quiet hquiet, List.append_nil]
      exact hfed
  | get data r hget hbuffer =>
    rw [List.append_nil] at htrace
    have hcall : call s.info.cmdMsgBuffer (1, .get data) = some (.get r.1 r.2.1, r.2.2) := by
      simp [call, hget]
    have hmore := hfed.call hcall
    refine ⟨by rw [htrace]; exact h.put, by rw [htrace]; exact h.answered, ?_⟩
    rw [htrace, hbuffer]
    simpa [BoundedFifo.puts] using hmore
  | put env bytes r cmdMsg haction hrecv hpos hcmd hauth hput hbuffer =>
    rw [isCmdAuthorized_eq_permitted] at hauth
    have hcall : call s.info.cmdMsgBuffer (0, .put cmdMsg) = some (.put r.1, r.2) := by
      simp [call, hput]
    refine ⟨?_, ?_, ?_⟩
    · rw [htrace, putCmds_append, checked_append, List.filter_append, List.map_append, h.put]
      simp [putCmds, checked, hauth]
    · rw [htrace, answers_append, checked_append, List.filter_append, List.map_append,
        List.map_append, h.answered]
      simp [answers, checked, hauth]
    · rw [htrace, hbuffer, putCmds_append]
      exact hfed.call hcall
  | notOK env bytes error cmdMsg haction hrecv hpos hcmd hauth hbuffer =>
    have hanswer := isCmdAuthorized_answer hauth
    rw [isCmdAuthorized_eq_permitted] at hauth
    refine ⟨?_, ?_, ?_⟩
    · rw [htrace, putCmds_append, checked_append, List.filter_append, List.map_append, h.put]
      simp [putCmds, checked, hauth]
    · rw [htrace, answers_append, checked_append, List.filter_append, List.map_append,
        List.map_append, h.answered]
      simp [answers, checked, hauth, hanswer]
    · have hnone : putCmds [.recv bytes.val, .check cmdMsg s.info.isCommander,
          .notOK (isCmdAuthorized env.cmdStatus cmdMsg s.info.isCommander).2 error] = [] := rfl
      rw [htrace, hbuffer, putCmds_append, hnone, List.append_nil]
      exact hfed

end Routed

/-- A `recv` with bytes returns one whole command. -/
def Action.Whole : Action → Prop
  | .run env => ∀ bytes ∈ env.recv, 0 < bytes.val.length →
      bytes.val.length = sizeofCommandStream
  | _ => True

instance : ∀ a : Action, Decidable a.Whole
  | .run env =>
    match h : env.recv with
    | none => .isTrue (by simp [Action.Whole, h])
    | some bytes => decidable_of_iff
        (0 < bytes.val.length → bytes.val.length = sizeofCommandStream) (by simp [Action.Whole, h])
  | .tlm _ | .sendCmdStatus _ _ _ _ _ _ | .sendTlm _ _ | .getCmd _ | .setCommander _ | .close =>
    .isTrue trivial

/-- Whole segments in the answers of `recv` are whole segments in the trace. -/
theorem received_whole {s t : Server} {a : Action}
    (hwhole : a.Whole) (h : ∀ bytes ∈ received s.trace, bytes.length = sizeofCommandStream)
    (hstep : s.step a = some t) :
    ∀ bytes ∈ received t.trace, bytes.length = sizeofCommandStream := by
  have hcommand : ∀ (bytes : Segment) (c : CommandStream) (k : Bool) (e : Event),
      bytes.val.length = sizeofCommandStream → received [e] = [] →
      ∀ b ∈ received (s.trace ++ [.recv bytes.val, .check c k, e]),
        b.length = sizeofCommandStream := by
    intro bytes c k e hlen he b hb
    have hreceived : received [.recv bytes.val, .check c k, e] = bytes.val :: received [e] := rfl
    rw [received_append, hreceived, he] at hb
    rcases List.mem_append.mp hb with hb | hb
    · exact h b hb
    · rw [List.mem_singleton.mp hb]
      exact hlen
  obtain ⟨es, htrace, heffect⟩ := Server.step_effect hstep
  rw [htrace]
  cases heffect with
  | quiet es hquiet hbuffer =>
    rw [received_append, received_quiet hquiet, List.append_nil]
    exact h
  | get data r hget hbuffer =>
    rw [List.append_nil]
    exact h
  | put env bytes r cmdMsg haction hrecv hpos hcmd hauth hput hbuffer =>
    subst haction
    exact hcommand bytes _ _ _ (hwhole bytes hrecv hpos) rfl
  | notOK env bytes error cmdMsg haction hrecv hpos hcmd hauth hbuffer =>
    subst haction
    exact hcommand bytes _ _ _ (hwhole bytes hrecv hpos) rfl

/-- Every received command of the GUI, and of the CSC while it is the commander, goes into the
buffer, which holds it until it is taken out or overwritten, and every other one is answered with
NotOK, unmodified, once and in order. -/
theorem commands_routed {s t : Server} {as : List Action} (hstart : s.trace = [])
    (hwhole : ∀ a ∈ as, a.Whole) (hrun : Runs.run Server.step s as = some t) :
    (checked t.trace).map (fun c => c.1.toBytes) = received t.trace ∧
      Routed s.info.cmdMsgBuffer t ∧
      ∀ cmdMsg ∈ putCmds t.trace, cmdMsg.commander = Commander.gui.toUInt32 ∨
        cmdMsg.commander = Commander.csc.toUInt32 := by
  have hbytes : ∀ bytes ∈ received t.trace, bytes.length = sizeofCommandStream := by
    refine Runs.run_mem_invariant
      (I := fun s => ∀ bytes ∈ received s.trace, bytes.length = sizeofCommandStream) ?_ hrun
      (by rw [hstart]; simp [received])
    intro s a t ha h hs
    exact received_whole (hwhole a ha) h hs
  have hrouted : Routed s.info.cmdMsgBuffer t := by
    refine Runs.run_invariant (fun _ _ _ h hs => h.step hs) hrun ⟨?_, ?_, ?_⟩
    · rw [hstart]
      rfl
    · rw [hstart]
      rfl
    · have hnone : calls s.info.cmdMsgBuffer [] = some ([], s.info.cmdMsgBuffer) := rfl
      rw [hstart]
      exact Fed.of_calls hnone
  refine ⟨(Framed.run hstart hrun).map_toBytes hbytes, hrouted, ?_⟩
  intro cmdMsg hmem
  rw [hrouted.put] at hmem
  obtain ⟨c, hc, rfl⟩ := List.mem_map.mp hmem
  exact permitted_commander (List.mem_filter.mp hc).2

/-- The server receives a command as one segment. -/
def recvCmd (commander : Commander) (counter : UInt32) : Action :=
  .run { recv := some ⟨(command commander counter).toBytes,
    Nat.le_of_eq (CommandStream.length_toBytes _)⟩ }

/-- Two connections; the CSC becomes the commander in the first one. -/
def twoConnections : List Action :=
  connecting ++ [recvCmd .gui 1, recvCmd .csc 2, .setCommander true, recvCmd .csc 3,
    recvCmd .self 4, .run { recv := some ⟨[], by decide⟩ }, .run { accept := 6 }, recvCmd .gui 5]

theorem commands_routed_two : ∃ t,
    Runs.run Server.step started twoConnections = some t ∧
    putCmds t.trace = [command .gui 1, command .csc 3, command .gui 5] ∧
    (answers t.trace).map (fun m => m.header.counter) = [2, 4] ∧
    t.info.cmdMsgBuffer.buffer = [command .gui 1, command .csc 3, command .gui 5] ∧
    Routed started.info.cmdMsgBuffer t ∧ ∃ q, Queued 2 t.info.cmdMsgBuffer q := by
  have hrun : (Runs.run Server.step started twoConnections).any (fun t =>
      putCmds t.trace == [command .gui 1, command .csc 3, command .gui 5] &&
        (answers t.trace).map (fun m => m.header.counter) == [2, 4] &&
        t.info.cmdMsgBuffer.buffer == [command .gui 1, command .csc 3, command .gui 5]) = true := by
    decide +kernel
  have hinit : circularBufInit ⟨some fun _ => default, true⟩ 2 = some started.info.cmdMsgBuffer :=
    rfl
  obtain ⟨t, ht, hall⟩ := (Option.any_eq_true _ _).mp hrun
  simp only [Bool.and_eq_true, beq_iff_eq] at hall
  have hrouted := (commands_routed rfl (by decide +kernel) ht).2.1
  obtain ⟨_, _, -, -, hqueued⟩ := hrouted.buffer
  exact ⟨t, ht, hall.1.1, hall.1.2, hall.2, hrouted, _,
    (hqueued 2 [] (by decide) (queued_init (by decide) hinit)).2⟩

end HexrotPxiCom.CmdTlmServer
