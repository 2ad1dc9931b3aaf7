import HexrotPxiCom.Interface.ServerSteps
import HexrotPxiCom.Lib.Runs
import HexrotPxiCom.Lib.Segments

/-!
# The framing of the received commands

The loop of `cmdTlmServer_run` takes whatever one `recv` returns for a whole command. The
handled commands are those that have arrived exactly when every `recv` that returns bytes
returns a whole structure.
-/

namespace HexrotPxiCom.CmdTlmServer

set_option autoImplicit false

/-- What the calls of `recv` returned, one after the other. -/
def received (trace : List Event) : List (List UInt8) :=
  trace.filterMap fun
    | .recv bytes => some bytes
    | _ => none

/-- The calls of `cmdTlmServer_isCmdAuthorized`. -/
def checked (trace : List Event) : List (CommandStream × Bool) :=
  trace.filterMap fun
    | .check cmdMsg isCommander => some (cmdMsg, isCommander)
    | _ => none

theorem received_append (l r : List Event) : received (l ++ r) = received l ++ received r :=
  List.filterMap_append

theorem checked_append (l r : List Event) : checked (l ++ r) = checked l ++ checked r :=
  List.filterMap_append

section
variable {es : List Event}

theorem filterMap_quiet {β : Type} {f : Event → Option β}
    (hf : ∀ e, e.isQuiet = true → f e = none) (h : ∀ e ∈ es, e.isQuiet = true) :
    es.filterMap f = [] :=
  List.filterMap_eq_nil_iff.mpr fun e he => hf e (h e he)

theorem received_quiet (h : ∀ e ∈ es, e.isQuiet = true) : received es = [] := by
  apply filterMap_quiet _ h
  intro e he
  cases e <;> first | rfl | cases he

theorem checked_quiet (h : ∀ e ∈ es, e.isQuiet = true) : checked es = [] := by
  apply filterMap_quiet _ h
  intro e he
  cases e <;> first | rfl | cases he

end

/-- A whole structure overwrites all of the local. -/
theorem toBytes_ofBytes_overwrite {bytes memory : List UInt8}
    (hbytes : bytes.length = sizeofCommandStream) (hmemory : memory.length = sizeofCommandStream) :
    (CommandStream.ofBytes (overwrite bytes memory)).toBytes = bytes := by
  have hdrop : memory.drop bytes.length = [] :=
    List.drop_of_length_le (Nat.le_of_eq (hmemory.trans hbytes.symm))
  rw [overwrite, hdrop, List.append_nil, CommandStream.toBytes_ofBytes hbytes]

/-- Each `recv` with bytes makes one command, which has these bytes when they are whole. -/
structure Framed (trace : List Event) : Prop where
  segments : ∀ bytes ∈ received trace, bytes.length ≤ sizeofCommandStream
  commands : List.Forall₂
    (fun bytes c => bytes.length = sizeofCommandStream → c.1.toBytes = bytes)
    (received trace) (checked trace)

namespace Framed

theorem nil : Framed [] := ⟨by simp [received], .nil⟩

theorem quiet {l es : List Event} (h : Framed l) (hquiet : ∀ e ∈ es, e.isQuiet = true) :
    Framed (l ++ es) := by
  refine ⟨?_, ?_⟩
  · rw [received_append, received_quiet hquiet, List.append_nil]
    exact h.segments
  · rw [received_append, checked_append, received_quiet hquiet, checked_quiet hquiet,
      List.append_nil, List.append_nil]
    exact h.commands

theorem command {l : List Event} (h : Framed l) (bytes : Segment) {memory : List UInt8}
    (hmemory : memory.length = sizeofCommandStream) (isCommander : Bool) (e : Event)
    (hrecv : received [e] = []) (hcheck : checked [e] = []) :
    Framed (l ++ [.recv bytes.val,
      .check (CommandStream.ofBytes (overwrite bytes.val memory)) isCommander, e]) := by
  have hreceived : received [.recv bytes.val,
      .check (CommandStream.ofBytes (overwrite bytes.val memory)) isCommander, e] =
        bytes.val :: received [e] := rfl
  have hchecked : checked [.recv bytes.val,
      .check (CommandStream.ofBytes (overwrite bytes.val memory)) isCommander, e] =
        (CommandStream.ofBytes (overwrite bytes.val memory), isCommander) :: checked [e] := rfl
  refine ⟨?_, ?_⟩
  · rw [received_append, hreceived, hrecv]
    intro b hb
    rcases List.mem_append.mp hb with hb | hb
    · exact h.segments b hb
    · rw [List.mem_singleton.mp hb]
      exact bytes.property
  · rw [received_append, checked_append, hreceived, hrecv, hchecked, hcheck]
    apply List.rel_append h.commands
    refine .cons ?_ .nil
    intro hwhole
    exact toBytes_ofBytes_overwrite hwhole hmemory

theorem step {a : Action} {s t : Server} (h : Framed s.trace) (hstep : s.step a = some t) :
    Framed t.trace := by
  obtain ⟨es, htrace, heffect⟩ := Server.step_effect hstep
  rw [htrace]
  cases heffect with
  | quiet es hquiet hbuffer => exact h.quiet hquiet
  | get data r hget hbuffer =>
    rw [List.append_nil]
    exact h
  | put env bytes r cmdMsg haction hrecv hpos hcmd hauth hput hbuffer =>
    subst hcmd
    exact h.command bytes (by simp) _ _ rfl rfl
  | notOK env bytes error cmdMsg haction hrecv hpos hcmd hauth hbuffer =>
    subst hcmd
    exact h.command bytes (by simp) _ _ rfl rfl

theorem run {s t : Server} {as : List Action} (hs : s.trace = [])
    (hrun : Runs.run Server.step s as = some t) : Framed t.trace := by
  refine Runs.run_invariant (I := fun s => Framed s.trace) (fun _ _ _ h hs => h.step hs) hrun ?_
  rw [hs]
  exact nil

theorem map_toBytes {trace : List Event} (h : Framed trace)
    (hwhole : ∀ bytes ∈ received trace, bytes.length = sizeofCommandStream) :
    (checked trace).map (fun c => c.1.toBytes) = received trace := by
  obtain ⟨-, hcommands⟩ := h
  generalize received trace = rs at hwhole hcommands
  generalize checked trace = cs at hcommands
  induction hcommands with
  | nil => rfl
  | @cons bytes c rs cs hbytes _ ih =>
    rw [List.map_cons, hbytes (hwhole bytes List.mem_cons_self),
      ih fun b hb => hwhole b (List.mem_cons_of_mem _ hb)]

end Framed

/-- The commands that are handed to `cmdTlmServer_isCmdAuthorized` are those whose bytes have
arrived if and only if every segment of the stream is one whole structure. -/
theorem checked_eq_arrived_iff {s t : Server} {as : List Action} {cmds : List CommandStream}
    (hstart : s.trace = []) (hrun : Runs.run Server.step s as = some t)
    (hstream : (received t.trace).flatten <+: cmds.flatMap CommandStream.toBytes) :
    (checked t.trace).map Prod.fst =
        cmds.take ((received t.trace).flatten.length / sizeofCommandStream) ↔
      ∀ bytes ∈ received t.trace, bytes.length = sizeofCommandStream := by
  have h : Framed t.trace := Framed.run hstart hrun
  have hk : 0 < sizeofCommandStream := by decide
  have hcount := h.commands.length_eq
  constructor
  · intro heq
    apply (Segments.whole_iff hk h.segments).mp
    have hlen := congrArg List.length heq
    rw [List.length_map, List.length_take] at hlen
    omega
  · intro hwhole
    have htotal := Segments.length_flatten_eq hwhole
    have hmap := Segments.eq_map_take CommandStream.length_toBytes hk hwhole hstream
    have hbytes := h.map_toBytes hwhole
    rw [htotal, Nat.mul_div_cancel_left _ hk]
    have hparse := congrArg (List.map CommandStream.ofBytes) (hbytes.trans hmap)
    simpa only [List.map_map, Function.comp_def, CommandStream.ofBytes_toBytes, List.map_id',
      List.map_id_fun'] using hparse

/-- A command, for the runs on fixed inputs. -/
def command (commander : Commander) (counter : UInt32) : CommandStream :=
  { (default : CommandStream) with commander := commander.toUInt32, counter := counter }

/-- A client connects. -/
def connecting : List Action := [.run {}, .run { accept := 5 }]

/-- One `recv` of the bytes from `i` on. -/
def recvPart (cmd : CommandStream) (i n : Nat) (h : n ≤ sizeofCommandStream) : Action :=
  .run { recv := some ⟨(cmd.toBytes.drop i).take n,
    Nat.le_trans (List.length_take_le n _) h⟩ }

theorem checked_eq_arrived_whole : ∃ t,
    Runs.run Server.step started (connecting ++
      [recvPart (command .gui 7) 0 60 (by decide), recvPart (command .gui 8) 0 60 (by decide)]) =
        some t ∧
    (checked t.trace).map Prod.fst = [command .gui 7, command .gui 8] := by
  have hrun : (Runs.run Server.step started (connecting ++
      [recvPart (command .gui 7) 0 60 (by decide), recvPart (command .gui 8) 0 60 (by decide)])).any
        (fun t => received t.trace == [(command .gui 7).toBytes, (command .gui 8).toBytes]) =
          true := by
    decide +kernel
  obtain ⟨t, ht, hrecv⟩ := (Option.any_eq_true _ _).mp hrun
  have hbytes : received t.trace = [(command .gui 7).toBytes, (command .gui 8).toBytes] :=
    beq_iff_eq.mp hrecv
  have hstream : (received t.trace).flatten <+:
      [command .gui 7, command .gui 8].flatMap CommandStream.toBytes := by
    rw [hbytes]
    exact List.prefix_refl _
  have hall := (checked_eq_arrived_iff rfl ht hstream).mpr (by rw [hbytes]; decide)
  rw [hbytes] at hall
  exact ⟨t, ht, hall⟩

/-- The two halves of one command are handled as two other commands. -/
theorem checked_ne_arrived_halves : ∃ t,
    Runs.run Server.step started (connecting ++
      [recvPart (command .gui 7) 0 30 (by decide), recvPart (command .gui 7) 30 30 (by decide)]) =
        some t ∧
    (received t.trace).flatten = (command .gui 7).toBytes ∧
    (checked t.trace).map Prod.fst = [command .gui 7, default] ∧
    (checked t.trace).map Prod.fst ≠ [command .gui 7].take
      ((received t.trace).flatten.length / sizeofCommandStream) := by
  have hrun : (Runs.run Server.step started (connecting ++
      [recvPart (command .gui 7) 0 30 (by decide),
        recvPart (command .gui 7) 30 30 (by decide)])).any
        (fun t => (received t.trace).flatten == (command .gui 7).toBytes &&
          (checked t.trace).map Prod.fst == [command .gui 7, default]) = true := by
    decide +kernel
  obtain ⟨t, ht, hall⟩ := (Option.any_eq_true _ _).mp hrun
  simp only [Bool.and_eq_true, beq_iff_eq] at hall
  obtain ⟨hbytes, hchecked⟩ := hall
  refine ⟨t, ht, hbytes, hchecked, ?_⟩
  rw [hbytes, hchecked]
  decide

end HexrotPxiCom.CmdTlmServer
