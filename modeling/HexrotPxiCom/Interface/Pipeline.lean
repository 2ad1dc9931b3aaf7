import HexrotPxiCom.Interface.Routing

/-!
# From the clients to the controller

Any number of servers, such as those of the GUI and the CSC, are given one `cmdMsgBuffer`, and
any threads take commands out of it. The turns of all of them are interleaved. Each command that
comes out is one that a server has let through, in that server's order, and those that do not come
out have been overwritten or are still there.
-/

namespace HexrotPxiCom.CmdTlmServer

set_option autoImplicit false

open CircularBuffer BoundedFifo

universe u
variable {ι : Type u}

namespace Server
variable {s t : Server} {a : Action}

/-- What a step puts into the buffer: nothing, or one command. -/
def Puts (s t : Server) (es : List Event) : Prop :=
  putCmds es = [] ∧ t.info.cmdMsgBuffer = s.info.cmdMsgBuffer ∨
  ∃ cmdMsg r, putCmds es = [cmdMsg] ∧ circularBufPut s.info.cmdMsgBuffer cmdMsg = some r ∧
    t.info.cmdMsgBuffer = r.2

theorem Puts.quiet {es : List Event} (hes : ∀ e ∈ es, e.isQuiet = true)
    (hbuffer : t.info.cmdMsgBuffer = s.info.cmdMsgBuffer) : Puts s t es :=
  Or.inl ⟨putCmds_quiet hes, hbuffer⟩

theorem run_puts {env : RunEnv} (h : RunTurn env s t) :
    ∃ es, t.trace = s.trace ++ es ∧ Puts s t es := by
  cases h with
  | wait hserver =>
    refine ⟨[], ?_, .quiet (by simp) ?_⟩
    · rw [List.append_nil]
      split
      · rfl
      · rfl
    · split
      · rfl
      · rfl
  | leave hserver hready =>
    obtain ⟨_, _, _, _, es, hclose, hes⟩ := basicClose_cases s
    rw [hclose]
    refine ⟨es, rfl, .quiet ?_ rfl⟩
    intro e he
    obtain ⟨fd, rfl⟩ := hes e he
    rfl
  | exited | noClient | nothing => exact ⟨[], by simp, .quiet (by simp) rfl⟩
  | refused fd hloop hstatus hfd hne hopt =>
    exact ⟨[.accept fd, .close fd], by simp [emit], .quiet (by simp [Event.isQuiet]) rfl⟩
  | connected fd hloop hstatus hfd hne hopt =>
    exact ⟨[.accept fd, .connect], by simp, .quiet (by simp [Event.isQuiet]) rfl⟩
  | dropped hloop hstatus hflag => exact ⟨[_], rfl, .quiet (by simp [Event.isQuiet]) rfl⟩
  | ended hloop hstatus hflag =>
    exact ⟨[.recvZero, .close s.info.socketConnect], by simp,
      .quiet (by simp [Event.isQuiet]) rfl⟩
  | command bytes t hloop hstatus hflag hrecv hpos hcmd =>
    rcases handleCmd_cases hcmd with ⟨r, -, hput, rfl⟩ | ⟨error, queue, -, -, rfl⟩
    · exact ⟨_, by simp; rfl, Or.inr ⟨_, r, rfl, hput, rfl⟩⟩
    · exact ⟨_, by simp; rfl, Or.inl ⟨rfl, rfl⟩⟩

theorem step_puts (h : s.step a = some t) (hother : ∀ data, a ≠ .getCmd data) :
    ∃ es, t.trace = s.trace ++ es ∧ Puts s t es := by
  cases a with
  | run env => exact run_puts (run_turn h)
  | tlm env =>
    obtain ⟨es, htrace, hes, hbuffer⟩ := sendTlmAndCmdStatus_effect h
    refine ⟨es, htrace, .quiet ?_ hbuffer⟩
    intro e he
    have hsend := hes e he
    cases e <;> first | rfl | cases hsend
  | getCmd data => exact absurd rfl (hother data)
  | close =>
    obtain ⟨es, htrace, hes, hbuffer⟩ := close_effect h
    refine ⟨es, htrace, .quiet ?_ hbuffer⟩
    intro e he
    rcases hes e he with rfl | ⟨fd, rfl⟩
    · rfl
    · rfl
  | sendCmdStatus | sendTlm | setCommander =>
    cases h
    exact ⟨[], by simp, .quiet (by simp) rfl⟩

/-- What a server puts into the buffer are the commands that it finds permitted. -/
theorem step_permitted
    (hput : putCmds s.trace = ((checked s.trace).filter permitted).map Prod.fst)
    (h : s.step a = some t) :
    putCmds t.trace = ((checked t.trace).filter permitted).map Prod.fst := by
  obtain ⟨es, htrace, heffect⟩ := step_effect h
  rw [htrace, putCmds_append, checked_append, List.filter_append, List.map_append, hput]
  cases heffect with
  | quiet es hquiet => rw [putCmds_quiet hquiet, checked_quiet hquiet]; rfl
  | get => rfl
  | put env bytes r cmdMsg haction hrecv hpos hcmd hauth =>
    rw [isCmdAuthorized_eq_permitted] at hauth
    simp [putCmds, checked, hauth]
  | notOK env bytes error cmdMsg haction hrecv hpos hcmd hauth =>
    rw [isCmdAuthorized_eq_permitted] at hauth
    simp [putCmds, checked, hauth]

end Server

/-- Servers, and the buffer that all of them have. -/
structure Plant (ι : Type u) where
  servers : ι → Server
  cmdMsgBuffer : CircularBuf

namespace Plant

/-- A server with the buffer as it is now. -/
def server (p : Plant ι) (i : ι) : Server :=
  { p.servers i with info := { (p.servers i).info with cmdMsgBuffer := p.cmdMsgBuffer } }

def step [DecidableEq ι] (p : Plant ι) (a : ι × Action) : Option (Plant ι) :=
  ((p.server a.1).step a.2).map fun s => ⟨Function.update p.servers a.1 s, s.info.cmdMsgBuffer⟩

/-- The commands that a step puts into the buffer. -/
def newPuts (p : Plant ι) (a : ι × Action) (t : Plant ι) : List CommandStream :=
  putCmds ((t.servers a.1).trace.drop (p.servers a.1).trace.length)

/-- The commands that the servers let through, with the server's name. -/
def accepted (p : Plant ι) (a : ι × Action) (t : Plant ι) : List (ι × CommandStream) :=
  (newPuts p a t).map fun cmdMsg => (a.1, cmdMsg)

/-- The commands that `circular_buf_get` hands out. -/
def got (p : Plant ι) (a : ι × Action) (_ : Plant ι) : List CommandStream :=
  match a.2 with
  | .getCmd data =>
    match circularBufGet p.cmdMsgBuffer data with
    | some (false, cmdMsg, _) => [cmdMsg]
    | _ => []
  | _ => []

/-- The commands whose put is logged as overwriting another one. -/
def overwriting (p : Plant ι) (a : ι × Action) (t : Plant ι) : List CommandStream :=
  (newPuts p a t).filter fun cmdMsg => (circularBufPut p.cmdMsgBuffer cmdMsg).any Prod.fst

def ops (p : Plant ι) (a : ι × Action) (t : Plant ι) : List (Op (ι × CommandStream)) :=
  match a.2 with
  | .getCmd data => [.get (a.1, data)]
  | _ => (accepted p a t).map .put

/-- What a step does with the buffer: nothing, a get or a put. -/
inductive Access (p : Plant ι) (a : ι × Action) (t : Plant ι) : Prop where
  | none (hops : ops p a t = []) (hputs : newPuts p a t = []) (hgot : got p a t = [])
      (hbuffer : t.cmdMsgBuffer = p.cmdMsgBuffer)
  | get (data : CommandStream) (r : Bool × CommandStream × CircularBuf)
      (haction : a.2 = .getCmd data) (hputs : newPuts p a t = [])
      (hget : circularBufGet p.cmdMsgBuffer data = some r) (hbuffer : t.cmdMsgBuffer = r.2.2)
  | put (cmdMsg : CommandStream) (r : Bool × CircularBuf) (hops : ops p a t = [.put (a.1, cmdMsg)])
      (hputs : newPuts p a t = [cmdMsg]) (hgot : got p a t = [])
      (hput : circularBufPut p.cmdMsgBuffer cmdMsg = some r) (hbuffer : t.cmdMsgBuffer = r.2)

section
variable {p t : Plant ι} {a : ι × Action} {s : Server} {es : List Event}

theorem newPuts_eq (hs : t.servers a.1 = s) (htrace : s.trace = (p.servers a.1).trace ++ es) :
    newPuts p a t = putCmds es := by
  rw [newPuts, hs, htrace, List.drop_left]

/-- The effect of the server's step on the buffer, when nothing is taken out. -/
theorem Access.of_puts (hother : ∀ data, a.2 ≠ .getCmd data) (hs : t.servers a.1 = s)
    (hbuffer : t.cmdMsgBuffer = s.info.cmdMsgBuffer)
    (htrace : s.trace = (p.servers a.1).trace ++ es) (h : (p.server a.1).Puts s es) :
    Access p a t := by
  have hputs := newPuts_eq hs htrace
  have hops : ops p a t = (accepted p a t).map .put := by
    unfold ops
    split
    · rename_i data haction
      exact absurd haction (hother data)
    · rfl
  have hgot : got p a t = [] := by
    unfold got
    split
    · rename_i data haction
      exact absurd haction (hother data)
    · rfl
  rcases h with ⟨hnone, hsame⟩ | ⟨cmdMsg, r, hone, hput, hr⟩
  · rw [hnone] at hputs
    refine .none ?_ hputs hgot (hbuffer.trans hsame)
    rw [hops, accepted, hputs]
    rfl
  · rw [hone] at hputs
    refine .put cmdMsg r ?_ hputs hgot hput (hbuffer.trans hr)
    rw [hops, accepted, hputs]
    rfl

theorem step_servers [DecidableEq ι] (h : p.step a = some t) :
    ∃ s, (p.server a.1).step a.2 = some s ∧ t.servers a.1 = s ∧
      t.cmdMsgBuffer = s.info.cmdMsgBuffer ∧ ∀ i ≠ a.1, t.servers i = p.servers i := by
  obtain ⟨s, hs, rfl⟩ := Option.map_eq_some_iff.mp h
  exact ⟨s, hs, Function.update_self _ _ _, rfl, fun i hi => Function.update_of_ne hi _ _⟩

theorem step_access [DecidableEq ι] (h : p.step a = some t) : Access p a t := by
  obtain ⟨s, hs, hserver, hbuffer, -⟩ := step_servers h
  by_cases haction : ∃ data, a.2 = .getCmd data
  · obtain ⟨data, haction⟩ := haction
    rw [haction] at hs
    obtain ⟨r, hget, rfl⟩ := Option.map_eq_some_iff.mp hs
    have hputs : newPuts p a t = putCmds [] := newPuts_eq hserver (List.append_nil _).symm
    exact .get data r haction hputs hget hbuffer
  · have hother : ∀ data, a.2 ≠ .getCmd data := fun data hdata => haction ⟨data, hdata⟩
    obtain ⟨es, htrace, hputs⟩ := Server.step_puts hs hother
    exact .of_puts hother hserver hbuffer htrace hputs

end

section
variable {p t : Plant ι} {a : ι × Action} {n : Nat} {q : List (ι × CommandStream)}

/-- One step, compared with the queue whose commands have the names of their servers. -/
theorem Access.results (h : Access p a t) (hn : 1 ≤ n)
    (hstores : Stores n p.cmdMsgBuffer (q.map Prod.snd)) :
    Stores n t.cmdMsgBuffer ((results n q (ops p a t)).2.map Prod.snd) ∧
      got p a t = (delivered (results n q (ops p a t)).1).map Prod.snd ∧
      (overwriting p a t).length = lost (results n q (ops p a t)).1 ∧
      puts (ops p a t) = accepted p a t := by
  cases h with
  | none hops hputs hgot hbuffer =>
    rw [hops, hgot, hbuffer, overwriting, accepted, hputs]
    exact ⟨hstores, rfl, rfl, rfl⟩
  | get data r haction hputs hget hbuffer =>
    have hops : ops p a t = [.get (a.1, data)] := by
      unfold ops
      rw [haction]
    have hgot : got p a t = match circularBufGet p.cmdMsgBuffer data with
        | some (false, cmdMsg, _) => [cmdMsg]
        | _ => [] := by
      unfold got
      rw [haction]
    rw [hops, overwriting, accepted, hputs, hgot, hbuffer]
    cases q with
    | nil =>
      have hempty := hstores.get_empty data
      rw [hget] at hempty
      cases hempty
      rw [hget]
      exact ⟨hstores, rfl, rfl, rfl⟩
    | cons c q =>
      obtain ⟨hcons, hrest⟩ := hstores.get_cons data
      rw [hget] at hcons
      cases hcons
      rw [hget]
      exact ⟨hrest, rfl, rfl, rfl⟩
  | put cmdMsg r hops hputs hgot hput hbuffer =>
    obtain ⟨buffer, hput', hstores'⟩ := hstores.put hn cmdMsg
    rw [hput] at hput'
    cases hput'
    rw [hops, hgot, overwriting, accepted, hputs, hbuffer, List.filter_cons, hput]
    rw [List.length_map] at hstores' ⊢
    by_cases hfull : q.length = n
    · rw [if_pos hfull] at hstores'
      refine ⟨?_, ?_, ?_, rfl⟩
      · simpa [BoundedFifo.results, BoundedFifo.step, hfull] using hstores'
      · simp [BoundedFifo.results, BoundedFifo.step, hfull, delivered]
      · simp [BoundedFifo.results, BoundedFifo.step, hfull, lost]
    · rw [if_neg hfull] at hstores'
      refine ⟨?_, ?_, ?_, rfl⟩
      · simpa [BoundedFifo.results, BoundedFifo.step, hfull] using hstores'
      · simp [BoundedFifo.results, BoundedFifo.step, hfull, delivered]
      · simp [BoundedFifo.results, BoundedFifo.step, hfull, lost]

variable [DecidableEq ι] {as : List (ι × Action)}

/-- A whole run, compared with the queue. -/
theorem run_results (hn : 1 ≤ n) (hrun : Runs.run step p as = some t)
    (hstores : Stores n p.cmdMsgBuffer (q.map Prod.snd)) :
    Stores n t.cmdMsgBuffer ((results n q (Runs.observe step ops p as)).2.map Prod.snd) ∧
      Runs.observe step got p as =
        (delivered (results n q (Runs.observe step ops p as)).1).map Prod.snd ∧
      (Runs.observe step overwriting p as).length =
        lost (results n q (Runs.observe step ops p as)).1 ∧
      puts (Runs.observe step ops p as) = Runs.observe step accepted p as := by
  induction as generalizing p q with
  | nil =>
    cases hrun
    exact ⟨hstores, rfl, rfl, rfl⟩
  | cons a as ih =>
    obtain ⟨v, hv, hrun⟩ := Runs.run_cons_eq_some.mp hrun
    obtain ⟨hstores, hgot, hlost, hputs⟩ := (step_access hv).results hn hstores
    obtain ⟨hstores', hgot', hlost', hputs'⟩ := ih hrun hstores
    rw [Runs.observe_cons hv, Runs.observe_cons hv, Runs.observe_cons hv, Runs.observe_cons hv,
      results_append, delivered_append, lost_append, puts_append, List.map_append,
      List.length_append, hgot, hlost, hputs]
    exact ⟨hstores', congrArg _ hgot', congrArg _ hlost', congrArg _ hputs'⟩

theorem accepted_filter_self (p : Plant ι) (a : ι × Action) (t : Plant ι) :
    (accepted p a t).filter (fun c => c.1 = a.1) = accepted p a t := by
  apply List.filter_eq_self.mpr
  intro c hc
  obtain ⟨cmdMsg, -, rfl⟩ := List.mem_map.mp hc
  exact decide_eq_true rfl

theorem step_putCmds (i : ι) (h : p.step a = some t) :
    putCmds (t.servers i).trace = putCmds (p.servers i).trace ++
      ((accepted p a t).filter fun c => c.1 = i).map Prod.snd := by
  obtain ⟨s, hs, hserver, -, hothers⟩ := step_servers h
  by_cases hi : i = a.1
  · subst hi
    obtain ⟨es, htrace, -⟩ := Server.step_effect hs
    rw [accepted_filter_self, accepted, newPuts_eq hserver htrace, hserver, htrace, putCmds_append,
      List.map_map]
    exact congrArg _ (List.map_id _).symm
  · have hnone : (accepted p a t).filter (fun c => c.1 = i) = [] := by
      apply List.filter_eq_nil_iff.mpr
      intro c hc
      obtain ⟨cmdMsg, -, rfl⟩ := List.mem_map.mp hc
      simpa using fun h => hi h.symm
    rw [hnone, hothers i hi, List.map_nil, List.append_nil]

/-- The commands with a server's name are those that its trace says it has put. -/
theorem run_putCmds (i : ι) (hrun : Runs.run step p as = some t) :
    putCmds (t.servers i).trace = putCmds (p.servers i).trace ++
      ((Runs.observe step accepted p as).filter fun c => c.1 = i).map Prod.snd := by
  induction as generalizing p with
  | nil =>
    cases hrun
    exact (List.append_nil _).symm
  | cons a as ih =>
    obtain ⟨v, hv, hrun⟩ := Runs.run_cons_eq_some.mp hrun
    rw [ih hrun, step_putCmds i hv, Runs.observe_cons hv, List.filter_append, List.map_append,
      List.append_assoc]

theorem run_permitted (i : ι) (hstart : (p.servers i).trace = [])
    (hrun : Runs.run step p as = some t) :
    putCmds (t.servers i).trace =
      ((checked (t.servers i).trace).filter permitted).map Prod.fst := by
  refine Runs.run_invariant (I := fun p => putCmds (p.servers i).trace =
    ((checked (p.servers i).trace).filter permitted).map Prod.fst) ?_ hrun ?_
  · intro p a t hput h
    obtain ⟨s, hs, hserver, -, hothers⟩ := step_servers h
    by_cases hi : i = a.1
    · subst hi
      rw [hserver]
      exact Server.step_permitted (s := p.server a.1) hput hs
    · rw [hothers i hi]
      exact hput
  · rw [hstart]
    rfl

end

end Plant

/-- Whatever the order of the turns of the servers and of the gets, the commands that come out of
the buffer are commands that the servers have let through, each once and those of a server in
order. As many are missing as puts have been logged as overwriting, and the rest is still there.
The number of bytes that `circular_buf_init` asks for does not wrap (`hn`). -/
theorem commands_delivered [DecidableEq ι] {env : InitEnv} {n : Nat} {p t : Plant ι}
    {as : List (ι × Action)} (hn : (((n + 1) * sizeofCommandStream : Nat) : Int) < sizeTRange)
    (hinit : circularBufInit env n = some p.cmdMsgBuffer) (hstart : ∀ i, (p.servers i).trace = [])
    (hrun : Runs.run Plant.step p as = some t) :
    ∃ d q : List (ι × CommandStream),
      Runs.observe Plant.step Plant.got p as = d.map Prod.snd ∧
      Stores n t.cmdMsgBuffer (q.map Prod.snd) ∧
      (d ++ q).Sublist (Runs.observe Plant.step Plant.accepted p as) ∧
      (Runs.observe Plant.step Plant.accepted p as).length =
        d.length + (Runs.observe Plant.step Plant.overwriting p as).length + q.length ∧
      (Runs.observe Plant.step Plant.overwriting p as = [] →
        d ++ q = Runs.observe Plant.step Plant.accepted p as) ∧
      ∀ i, ((Runs.observe Plant.step Plant.accepted p as).filter fun c => c.1 = i).map Prod.snd =
        ((checked (t.servers i).trace).filter permitted).map Prod.fst := by
  have hsmall : ((n + 1 : Nat) : Int) < sizeTRange := by
    have hle : n + 1 ≤ (n + 1) * sizeofCommandStream := Nat.le_mul_of_pos_right _ (by decide)
    omega
  obtain ⟨hpos, -⟩ := circularBufInit_cases hsmall hinit
  have hstores : Stores n p.cmdMsgBuffer (List.map Prod.snd ([] : List (ι × CommandStream))) :=
    stores_init hsmall hinit hn
  obtain ⟨hstores', hgot, hlost, hputs⟩ := Plant.run_results hpos hrun hstores
  have hsub := results_sublist n [] (Runs.observe Plant.step Plant.ops p as)
  have hcount := results_count hpos [] (Runs.observe Plant.step Plant.ops p as)
  have hlossless := results_lossless hpos [] (Runs.observe Plant.step Plant.ops p as)
  rw [hputs, List.nil_append] at hsub hlossless
  rw [hputs, List.length_nil, Nat.zero_add, ← hlost] at hcount
  refine ⟨_, _, hgot, hstores', hsub, hcount, ?_, ?_⟩
  · intro hnone
    apply hlossless
    rw [← hlost, hnone]
    rfl
  · intro i
    have hput := Plant.run_putCmds i hrun
    rw [hstart i] at hput
    rw [← Plant.run_permitted i (hstart i) hrun]
    exact hput.symm

/-- The servers of the GUI (`true`) and of the CSC, with a buffer for two commands. -/
def twoServers : Plant Bool := ⟨fun _ => started, ⟨[default, default, default], 0, 0, 3⟩⟩

/-- The CSC is the commander from its second command on, and the third command that is let
through overwrites the first one. -/
def twoServersRun : List (Bool × Action) :=
  connecting.map (fun a => (true, a)) ++ connecting.map (fun a => (false, a)) ++
    [(true, recvCmd .gui 1), (false, recvCmd .csc 2), (false, .setCommander true),
      (false, recvCmd .csc 3), (true, recvCmd .gui 4), (true, .getCmd default)]

theorem commands_delivered_two : ∃ t d q,
    Runs.run Plant.step twoServers twoServersRun = some t ∧
    Runs.observe Plant.step Plant.got twoServers twoServersRun = [command .csc 3] ∧
    (Runs.observe Plant.step Plant.overwriting twoServers twoServersRun).length = 1 ∧
    Runs.observe Plant.step Plant.got twoServers twoServersRun = List.map Prod.snd d ∧
    Stores 2 t.cmdMsgBuffer (List.map Prod.snd q) ∧
    (d ++ q).Sublist (Runs.observe Plant.step Plant.accepted twoServers twoServersRun) := by
  have hrun : (Runs.run Plant.step twoServers twoServersRun).isSome = true := by decide +kernel
  obtain ⟨t, ht⟩ := Option.isSome_iff_exists.mp hrun
  have hinit : circularBufInit ⟨some fun _ => default, true⟩ 2 = some twoServers.cmdMsgBuffer := rfl
  obtain ⟨d, q, hgot, hstores, hsub, -⟩ :=
    commands_delivered (by decide) hinit (fun _ => rfl) ht
  exact ⟨t, d, q, ht, by decide +kernel, by decide +kernel, hgot, hstores, hsub⟩

end HexrotPxiCom.CmdTlmServer
