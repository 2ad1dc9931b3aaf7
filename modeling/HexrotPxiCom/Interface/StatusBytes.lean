import HexrotPxiCom.Interface.Outgoing
import HexrotPxiCom.Interface.Routing
import HexrotPxiCom.Lib.CString
import Mathlib.Data.List.GetD

/-!
# The bytes of a command status

Both functions that fill a `commandStatusStructure_t` fill a local that is not initialised. What
they leave as it was is what the stack held, and it is sent to the client.
-/

namespace HexrotPxiCom.CmdTlmServer

set_option autoImplicit false

/-- The first 49 bytes of a reason, padded with NULs. -/
def paddedReason (reason : CString) : List UInt8 :=
  let cut := reason.chars.take (lengthCmdStatusReason - 1)
  cut ++ List.replicate (lengthCmdStatusReason - cut.length) 0

/-- The reason for which `cmdTlmServer_isCmdAuthorized` rejects a command. -/
def reasonCmdFail (cmdMsg : CommandStream) : String :=
  if cmdMsg.commander = Commander.gui.toUInt32 ∨ cmdMsg.commander = Commander.csc.toUInt32 then
    "The CSC is not the commander"
  else "Unrecognized commander; must be one of GUI or CSC"

theorem nul_notMem_reasonCmdFail (cmdMsg : CommandStream) : 0 ∉ cString (reasonCmdFail cmdMsg) := by
  unfold reasonCmdFail
  split <;> decide

def rejectReason (cmdMsg : CommandStream) : CString where
  chars := cString (reasonCmdFail cmdMsg)
  noNul := nul_notMem_reasonCmdFail cmdMsg

/-- The local of `cmdTlmServer_run` after the commands that were handled before. -/
def handled (cmdStatus : CommandStatus) (cmds : List (CommandStream × Bool)) : CommandStatus :=
  cmds.foldl (fun cmdStatus c => (isCmdAuthorized cmdStatus c.1 c.2).2) cmdStatus

/-- The contents agree where the timestamp is. -/
def SameTime (a b : CommandStatus) : Prop :=
  a.header.tvSec = b.header.tvSec ∧ a.header.tvNsec = b.header.tvNsec

/-- Two messages are the same bytes, with the reason in them. -/
def SameBytes (reason : CString) (a b : CommandStatus) : Prop :=
  a.toBytes = b.toBytes ∧ a.reason.toList = paddedReason reason ∧
    b.reason.toList = paddedReason reason

instance (a b : CommandStatus) : Decidable (SameTime a b) := inferInstanceAs (Decidable (_ ∧ _))

section
variable {a b : CommandStatus} {cmdMsg : CommandStream} {isCommander : Bool}

theorem getElem_strncpy {n i : Nat} (src : List UInt8) (hi : i < n) :
    (strncpy n src)[i] = src.getD i 0 := Vector.getElem_ofFn hi

/-- `strncpy` to an array of `n + 1` bytes, with a NUL at its end. -/
theorem toList_strncpy_set (n : Nat) (src : List UInt8) (hlast : n < n + 1) :
    ((strncpy (n + 1) src).set n 0 hlast).toList =
      src.take n ++ List.replicate (n + 1 - (src.take n).length) 0 := by
  have hcut : (src.take n).length ≤ n := List.length_take_le n src
  apply List.ext_getElem
  · rw [Vector.length_toList, List.length_append, List.length_replicate]
    omega
  · intro i hi _
    rw [Vector.length_toList] at hi
    rw [Vector.getElem_toList, Vector.getElem_set, List.getElem_append]
    by_cases hin : i < (src.take n).length
    · have hsrc : i < src.length := by
        rw [List.length_take] at hin
        omega
      rw [if_neg (by omega), dif_pos hin, getElem_strncpy, List.getElem_take,
        List.getD_eq_getElem _ _ hsrc]
    · rw [dif_neg hin, List.getElem_replicate]
      split
      · rfl
      · rename_i hne
        rw [List.length_take] at hin
        rw [getElem_strncpy, List.getD_eq_default _ _ (by omega)]

theorem reason_toList (reason : CString) :
    ((strncpy lengthCmdStatusReason reason.chars).set (lengthCmdStatusReason - 1) 0
      lastReason_lt).toList = paddedReason reason :=
  toList_strncpy_set 49 reason.chars lastReason_lt

/-- Only the timestamp of the local is left in the message. -/
theorem cmdStatusMsg_inj (counter cmdStatus : UInt32) (duration : UInt64) (pReason : List UInt8) :
    cmdStatusMsg a counter cmdStatus duration pReason =
      cmdStatusMsg b counter cmdStatus duration pReason ↔ SameTime a b := by
  simp [cmdStatusMsg, SameTime]

theorem cmdStatusMsg_sameBytes_iff (counter cmdStatus : UInt32) (duration : UInt64)
    (reason : CString) :
    SameBytes reason (cmdStatusMsg a counter cmdStatus duration reason.chars)
      (cmdStatusMsg b counter cmdStatus duration reason.chars) ↔ SameTime a b := by
  rw [← @cmdStatusMsg_inj a b counter cmdStatus duration reason.chars, SameBytes,
    CommandStatus.toBytes_inj]
  constructor
  · rintro ⟨hsame, -⟩
    exact hsame
  · intro hsame
    exact ⟨hsame, reason_toList reason, reason_toList reason⟩

/-- A rejected command is answered as `cmdTlmServer_sendCmdStatusToMsgQueue` does. -/
theorem isCmdAuthorized_eq (cmdStatus : CommandStatus) (cmdMsg : CommandStream)
    (isCommander : Bool) :
    isCmdAuthorized cmdStatus cmdMsg isCommander =
      if permitted (cmdMsg, isCommander) then (true, cmdStatus)
      else (false, cmdStatusMsg cmdStatus cmdMsg.counter CmdStatus.notOK.toUInt32 0
        (cString (reasonCmdFail cmdMsg))) := by
  unfold isCmdAuthorized permitted reasonCmdFail cmdStatusMsg
  have hne : Commander.gui.toUInt32 ≠ Commander.csc.toUInt32 := by decide
  by_cases hgui : cmdMsg.commander = Commander.gui.toUInt32
  · simp [hgui, hne]
  · by_cases hcsc : cmdMsg.commander = Commander.csc.toUInt32
    · cases isCommander <;> simp [hcsc, hne.symm]
    · simp [hgui, hcsc]

theorem isCmdAuthorized_rejected (h : (isCmdAuthorized a cmdMsg isCommander).1 = false)
    (cmdStatus : CommandStatus) :
    (isCmdAuthorized cmdStatus cmdMsg isCommander).2 = cmdStatusMsg cmdStatus cmdMsg.counter
      CmdStatus.notOK.toUInt32 0 (cString (reasonCmdFail cmdMsg)) := by
  rw [isCmdAuthorized_eq_permitted] at h
  rw [isCmdAuthorized_eq, h]
  rfl

/-- No command that is handled sets the timestamp. -/
theorem isCmdAuthorized_sameTime (cmdStatus : CommandStatus) (cmdMsg : CommandStream)
    (isCommander : Bool) :
    SameTime (isCmdAuthorized cmdStatus cmdMsg isCommander).2 cmdStatus := by
  rw [isCmdAuthorized_eq]
  split
  · exact ⟨rfl, rfl⟩
  · exact ⟨rfl, rfl⟩

theorem handled_sameTime (cmdStatus : CommandStatus) (cmds : List (CommandStream × Bool)) :
    SameTime (handled cmdStatus cmds) cmdStatus := by
  induction cmds generalizing cmdStatus with
  | nil => exact ⟨rfl, rfl⟩
  | cons c cmds ih =>
    obtain ⟨hsec, hnsec⟩ := ih (isCmdAuthorized cmdStatus c.1 c.2).2
    obtain ⟨hsec', hnsec'⟩ := isCmdAuthorized_sameTime cmdStatus c.1 c.2
    exact ⟨hsec.trans hsec', hnsec.trans hnsec'⟩

theorem rejected_sameBytes_iff (before before' : List (CommandStream × Bool))
    (h : (isCmdAuthorized a cmdMsg isCommander).1 = false) :
    SameBytes (rejectReason cmdMsg) (isCmdAuthorized (handled a before) cmdMsg isCommander).2
      (isCmdAuthorized (handled b before') cmdMsg isCommander).2 ↔ SameTime a b := by
  obtain ⟨hsec, hnsec⟩ := handled_sameTime a before
  obtain ⟨hsec', hnsec'⟩ := handled_sameTime b before'
  rw [isCmdAuthorized_rejected h, isCmdAuthorized_rejected h]
  refine (cmdStatusMsg_sameBytes_iff _ _ _ (rejectReason cmdMsg)).trans ?_
  rw [SameTime, hsec, hnsec, hsec', hnsec', SameTime]

end

/-- Both functions send what the stack held in place of the timestamp, and nothing else of it. -/
theorem cmdStatus_sameBytes_iff (a b : CommandStatus) :
    (∀ (counter cmdStatus : UInt32) (duration : UInt64) (reason : CString),
      SameBytes reason (cmdStatusMsg a counter cmdStatus duration reason.chars)
        (cmdStatusMsg b counter cmdStatus duration reason.chars) ↔ SameTime a b) ∧
    ∀ (cmdMsg : CommandStream) (isCommander : Bool) (before before' : List (CommandStream × Bool)),
      (isCmdAuthorized a cmdMsg isCommander).1 = false →
      (SameBytes (rejectReason cmdMsg) (isCmdAuthorized (handled a before) cmdMsg isCommander).2
        (isCmdAuthorized (handled b before') cmdMsg isCommander).2 ↔ SameTime a b) := by
  constructor
  · intro counter cmdStatus duration reason
    exact cmdStatusMsg_sameBytes_iff counter cmdStatus duration reason
  · intro cmdMsg isCommander before before' h
    exact rejected_sameBytes_iff before before' h

/-- A local with another second in it. -/
def staleLocal : CommandStatus :=
  { (default : CommandStatus) with header := { (default : Header) with tvSec := 1 } }

/-- The reason `"ok"`. -/
def reasonOk : CString where
  chars := [111, 107]
  noNul := by decide

/-- A local with the time of the default one, and other bytes in everything else. -/
def usedLocal : CommandStatus :=
  { header := { (default : Header) with frameId := 3, counter := 41 }
    cmdStatus := 5
    duration := 9
    reason := Vector.replicate lengthCmdStatusReason 120 }

/-- A CSC command while the GUI is the commander, with other commands before it. -/
theorem cmdStatus_sameBytes_csc :
    SameBytes reasonOk (cmdStatusMsg default 7 1 0 reasonOk.chars)
      (cmdStatusMsg usedLocal 7 1 0 reasonOk.chars) ∧
    SameBytes (rejectReason { (default : CommandStream) with commander := 2 })
      (isCmdAuthorized (handled default []) { (default : CommandStream) with commander := 2 }
        false).2
      (isCmdAuthorized (handled usedLocal [(default, false)])
        { (default : CommandStream) with commander := 2 } false).2 :=
  ⟨((cmdStatus_sameBytes_iff default usedLocal).1 7 1 0 reasonOk).mpr ⟨rfl, rfl⟩,
    ((cmdStatus_sameBytes_iff default usedLocal).2 _ false [] [(default, false)]
      (by decide)).mpr ⟨rfl, rfl⟩⟩

/-- The second that was on the stack is sent. -/
theorem cmdStatus_stray : (cmdStatusMsg staleLocal 7 1 0 reasonOk.chars).header.tvSec = 1 ∧
    (cmdStatusMsg default 7 1 0 reasonOk.chars).header.tvSec = 0 ∧
    ¬ SameBytes reasonOk (cmdStatusMsg staleLocal 7 1 0 reasonOk.chars)
      (cmdStatusMsg default 7 1 0 reasonOk.chars) := by
  refine ⟨by decide, by decide, ?_⟩
  rw [cmdStatusMsg_sameBytes_iff]
  decide

end HexrotPxiCom.CmdTlmServer
