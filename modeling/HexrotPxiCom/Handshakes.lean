import HexrotPxiCom.Interface.Startup
import HexrotPxiCom.LogTlm.Startup

/-!
# The start and the end of all threads

The server thread, the telemetry thread and the flush thread are started and stopped by one
flag each. None of the joins gets stuck exactly when no flag is cleared before its thread has
seen it.
-/

namespace HexrotPxiCom

set_option autoImplicit false

universe u

/-- In every run, no closing thread waits for a thread that waits for its cleared flag, if and
only if a flag is cleared only after its thread has left the wait before its loop. -/
theorem joins_never_stuck_iff (fdsFd : Int) (info : CmdTlmServer.ServerInfo)
    (as : List CmdTlmServer.StartupAction) {ρ : Type u} (s : LogTlm.State ρ)
    (bs : List (LogTlm.StartupAction ρ)) :
    (Runs.Along CmdTlmServer.Startup.step (fun t => ¬ t.TlmStuck ∧ ¬ t.ServerStuck)
        (.init fdsFd info) as ↔
      Runs.Guarded CmdTlmServer.Startup.step CmdTlmServer.Startup.ClearsLate
        (.init fdsFd info) as) ∧
    (Runs.Along LogTlm.Startup.step (fun t => ¬ t.Stuck) (.init s) bs ↔
      Runs.Guarded LogTlm.Startup.step LogTlm.Startup.ClearsLate (.init s) bs) :=
  ⟨CmdTlmServer.Startup.never_stuck_iff fdsFd info as, LogTlm.Startup.never_stuck_iff s bs⟩

/-- Each starting call returns, and the closing call clears the flag before the new thread has
looked at it. No later step of any thread helps. -/
theorem joins_stuck :
    (∃ t, Runs.run CmdTlmServer.Startup.step (.init 3 (.init 8 3 2 ⟨[], 0, 0, 0⟩))
        (List.replicate 5 .start ++ [.thread .close]) = some t ∧ t.TlmStuck ∧
      ∀ bs v, Runs.run CmdTlmServer.Startup.step t bs = some v → v.TlmStuck) ∧
    (∃ t, Runs.run (LogTlm.Startup.step (ρ := Nat)) (.init .initial)
        (List.replicate 3 .start ++ [.user .closeThread, .user (.app {}), .user (.app {})]) =
          some t ∧ t.Stuck ∧
      ∀ bs v, Runs.run LogTlm.Startup.step t bs = some v → v.Stuck) := by
  have htlm : ∃ t, Runs.run CmdTlmServer.Startup.step (.init 3 (.init 8 3 2 ⟨[], 0, 0, 0⟩))
      (List.replicate 5 .start ++ [.thread .close]) = some t ∧ t.TlmStuck :=
    ⟨_, rfl, rfl, rfl, rfl⟩
  have hlog : ∃ t, Runs.run (LogTlm.Startup.step (ρ := Nat)) (.init .initial)
      (List.replicate 3 .start ++ [.user .closeThread, .user (.app {}), .user (.app {})]) =
        some t ∧ t.Stuck := ⟨_, rfl, rfl, rfl, rfl⟩
  obtain ⟨t, ht, htlm⟩ := htlm
  obtain ⟨v, hv, hlog⟩ := hlog
  refine ⟨⟨t, ht, htlm, fun bs u hu => ?_⟩, ⟨v, hv, hlog, fun bs u hu => ?_⟩⟩
  · exact (CmdTlmServer.Startup.stuck_run ht hu).1 htlm
  · exact LogTlm.Startup.stuck_run hv hu hlog

end HexrotPxiCom
