import HexrotPxiCom.Interface.Resources
import Mathlib.Tactic.Abel

/-!
# The resources of the server are released

After each call the fields of the server information say what the server holds, and the ledger
accepts the trace. A closed server holds nothing.
-/

namespace HexrotPxiCom.CmdTlmServer

set_option autoImplicit false

open CircularBuffer

/-- The number of the resource has been given out. -/
def Resource.Below (next : Nat) : Resource → Prop
  | .socket fd => fd < next
  | .name pName => ∀ n ∈ pName.block, n < next
  | .queue mqd => mqd < next
  | .registration _ => True
  | .buffer block => block < next

theorem Resource.Below.mono {m n : Nat} {r : Resource} (h : r.Below m) (hmn : m ≤ n) :
    r.Below n := by
  cases r with
  | socket fd | queue mqd => exact lt_of_lt_of_le h (Int.ofNat_le.mpr hmn)
  | name pName => exact fun x hx => lt_of_lt_of_le (h x hx) hmn
  | registration => trivial
  | buffer block => exact lt_of_lt_of_le h hmn

/-- A socket field, where -1 is no socket. -/
def socketHeld (fd : Int) : Multiset Resource := if fd = -1 then 0 else {.socket fd}

theorem socketHeld_unset : socketHeld (-1) = 0 := rfl

theorem socketHeld_of_ne {fd : Int} (h : fd ≠ -1) : socketHeld fd = {.socket fd} := if_neg h

namespace QueueHandles

def nameHeld (q : QueueHandles) : Multiset Resource :=
  match q.pQueueName.block with
  | none => 0
  | some _ => {.name q.pQueueName}

/-- What the fields hold: `pMsg` stands for the queue, the queue for its registered name. -/
def held (q : QueueHandles) : Multiset Resource :=
  match q.pMsg with
  | none => q.nameHeld
  | some block => .buffer block ::ₘ .queue q.msgQueue ::ₘ .registration q.pQueueName.text ::ₘ
      q.nameHeld

/-- The name is the empty literal or made by `cmdTlmServer_genNameMsgQueue`, and it is made
before the queue. -/
structure WellFormed (pNameBase : List Char) (q : QueueHandles) : Prop where
  name : q.pQueueName = .empty ∨
    ∃ block identifier, q.pQueueName = ⟨some block, pNameBase ++ Numerals.decimal identifier⟩
  named : q.pMsg ≠ none → q.pQueueName.block ≠ none

theorem WellFormed.unset (pNameBase : List Char) : QueueHandles.unset.WellFormed pNameBase :=
  ⟨Or.inl rfl, fun h => absurd rfl h⟩

theorem held_unset : QueueHandles.unset.held = 0 := rfl

section
variable {pNameBase : List Char} {q : QueueHandles} {rest : Multiset Resource}

theorem closeMsgQueue_pMsg (q : QueueHandles) : q.closeMsgQueue.1.pMsg = none := by
  unfold closeMsgQueue
  split
  · rfl
  · assumption

theorem closeMsgQueue_name (q : QueueHandles) :
    q.closeMsgQueue.1.pQueueName = q.pQueueName := by
  unfold closeMsgQueue
  split <;> rfl

theorem nameHeld_some {block : Nat} (h : q.pQueueName.block = some block) :
    q.nameHeld = {.name q.pQueueName} := by
  rw [nameHeld, h]

theorem held_none (h : q.pMsg = none) : q.held = q.nameHeld := by
  rw [held, h]

theorem held_some {block : Nat} (h : q.pMsg = some block) :
    q.held = .buffer block ::ₘ .queue q.msgQueue ::ₘ .registration q.pQueueName.text ::ₘ
      q.nameHeld := by
  rw [held, h]

/-- The queue is closed and unlinked under its name, which is still there. -/
theorem WellFormed.closeMsgQueue (h : q.WellFormed pNameBase) (rest : Multiset Resource) :
    Ledger.Leaves (q.held + rest) q.closeMsgQueue.2 (q.closeMsgQueue.1.held + rest) := by
  unfold QueueHandles.closeMsgQueue
  split
  · rename_i block hmsg
    obtain ⟨n, hn⟩ := Option.ne_none_iff_exists'.mp (h.named (by rw [hmsg]; simp))
    have hname := nameHeld_some hn
    rw [held_some hmsg, Multiset.cons_add, Multiset.cons_add, Multiset.cons_add]
    refine .release (.release (.use ?_ (.release (.nil _))))
    rw [hname]
    simp
  · exact .nil _

/-- Only the name of an open queue is registered. -/
theorem registration_mem_held {name : List Char} (h : .registration name ∈ q.held) :
    q.pMsg ≠ none ∧ name = q.pQueueName.text := by
  have hname : .registration name ∉ q.nameHeld := by
    unfold nameHeld
    split <;> simp
  cases hmsg : q.pMsg with
  | none =>
    rw [held_none hmsg] at h
    exact absurd h hname
  | some block =>
    rw [held_some hmsg] at h
    simp only [Multiset.mem_cons, reduceCtorEq, Resource.registration.injEq, false_or] at h
    rcases h with h | h
    · exact ⟨Option.some_ne_none block, h⟩
    · exact absurd h hname

theorem closeMsgQueue_le (q : QueueHandles) : q.closeMsgQueue.1.held ≤ q.held := by
  unfold QueueHandles.closeMsgQueue
  split
  · rename_i block hmsg
    rw [held_some hmsg]
    calc q.nameHeld ≤ .registration q.pQueueName.text ::ₘ q.nameHeld := Multiset.le_cons_self _ _
      _ ≤ .queue q.msgQueue ::ₘ .registration q.pQueueName.text ::ₘ q.nameHeld :=
        Multiset.le_cons_self _ _
      _ ≤ _ := Multiset.le_cons_self _ _
  · exact le_rfl

theorem WellFormed.closeMsgQueue_wellFormed (h : q.WellFormed pNameBase) :
    q.closeMsgQueue.1.WellFormed pNameBase := by
  refine ⟨?_, fun hmsg => absurd q.closeMsgQueue_pMsg hmsg⟩
  rw [closeMsgQueue_name]
  exact h.name

theorem freeQueueName_pMsg (q : QueueHandles) : q.freeQueueName.1.pMsg = q.pMsg := by
  unfold freeQueueName
  split <;> rfl

theorem joined_nonempty (hbase : pNameBase ≠ []) (identifier : Int) :
    (pNameBase ++ Numerals.decimal identifier).take 1 ≠ [] := by
  simp [hbase]

/-- The name is freed, unless it is the literal. -/
theorem WellFormed.freeQueueName (h : q.WellFormed pNameBase) (hbase : pNameBase ≠ [])
    (hmsg : q.pMsg = none) (rest : Multiset Resource) :
    Ledger.Leaves (q.held + rest) q.freeQueueName.2 rest ∧ q.freeQueueName.1.held = 0 ∧
      q.freeQueueName.1.WellFormed pNameBase := by
  have hheld := held_none hmsg
  have hkeep := hmsg
  rw [← freeQueueName_pMsg q] at hkeep
  have hdone (hname : q.freeQueueName.1.pQueueName = .empty) :
      q.freeQueueName.1.held = 0 ∧ q.freeQueueName.1.WellFormed pNameBase := by
    refine ⟨?_, Or.inl hname, fun h => absurd hkeep h⟩
    rw [held, hkeep, nameHeld, hname]
    rfl
  rw [hheld]
  rcases h.name with hname | ⟨block, identifier, hname⟩
  · have hempty : q.freeQueueName = (q, []) := by
      unfold QueueHandles.freeQueueName
      rw [hname]
      rfl
    have hnone : q.nameHeld = 0 := by rw [nameHeld, hname]; rfl
    refine ⟨?_, hdone (by rw [hempty]; exact hname)⟩
    rw [hempty, hnone, zero_add]
    exact .nil _
  · have hfree : q.freeQueueName =
        ({ q with pQueueName := .empty }, [.release (.name q.pQueueName)]) := by
      unfold QueueHandles.freeQueueName
      rw [if_pos (by rw [hname]; exact joined_nonempty hbase identifier)]
    have hone : q.nameHeld = {.name q.pQueueName} := by rw [nameHeld, hname]
    refine ⟨?_, hdone (by rw [hfree])⟩
    rw [hfree, hone, Multiset.singleton_add]
    exact .release (.nil _)

end

end QueueHandles

theorem names_ne (m n : Int) : "/queueTlm".toList ++ Numerals.decimal m ≠
    "/queueCmdStatus".toList ++ Numerals.decimal n := by
  intro h
  have hchars := congrArg (List.take 7) h
  rw [List.take_append_of_le_length (by decide), List.take_append_of_le_length (by decide)]
    at hchars
  revert hchars
  decide

theorem registration_not_mem_socketHeld (name : List Char) (fd : Int) :
    .registration name ∉ socketHeld fd := by
  unfold socketHeld
  split <;> simp

namespace Handles

/-- What the server information holds. -/
def held (info : Handles) : Multiset Resource :=
  socketHeld info.socketConnect + socketHeld info.socketListen + info.tlm.held +
    info.cmdStatus.held

def besideTlm (info : Handles) : Multiset Resource :=
  socketHeld info.socketConnect + socketHeld info.socketListen + info.cmdStatus.held

def besideCmdStatus (info : Handles) : Multiset Resource :=
  socketHeld info.socketConnect + socketHeld info.socketListen + info.tlm.held

theorem held_tlm (info : Handles) : info.held = info.tlm.held + info.besideTlm := by
  unfold held besideTlm
  abel

theorem held_cmdStatus (info : Handles) :
    info.held = info.cmdStatus.held + info.besideCmdStatus := by
  unfold held besideCmdStatus
  abel

theorem held_connect {info : Handles} (hfd : info.socketConnect ≠ -1) :
    info.held =
      .socket info.socketConnect ::ₘ Handles.held { info with socketConnect := -1 } := by
  simp only [held, socketHeld_of_ne hfd, socketHeld_unset, ← Multiset.singleton_add]
  abel

theorem held_listen {info : Handles} (hfd : info.socketListen ≠ -1) :
    info.held =
      .socket info.socketListen ::ₘ Handles.held { info with socketListen := -1 } := by
  simp only [held, socketHeld_of_ne hfd, socketHeld_unset, ← Multiset.singleton_add]
  abel

end Handles

/-- A telemetry message has bytes, or no telemetry queue has been left under the name. -/
def Call.Sized : Call → Prop
  | .init sizeMsgTlm _ _ _ left => 0 < sizeMsgTlm.toNat ∨ left.tlm = false
  | _ => True

namespace Host

/-- The trace is accepted and leaves what the fields hold. -/
structure Settled (h : Host) : Prop where
  leaves : Ledger.Leaves 0 h.trace h.info.held
  below : ∀ r ∈ h.info.held, r.Below h.next
  tlm : h.info.tlm.WellFormed "/queueTlm".toList
  cmdStatus : h.info.cmdStatus.WellFormed "/queueCmdStatus".toList

section
variable {h : Host}

theorem Settled.update {info : Handles} {next : Nat} {es : List (Entry Resource)}
    (hs : h.Settled) (hes : Ledger.Leaves h.info.held es info.held)
    (hbelow : ∀ r ∈ info.held, r.Below next) (htlm : info.tlm.WellFormed "/queueTlm".toList)
    (hcmd : info.cmdStatus.WellFormed "/queueCmdStatus".toList) :
    Settled { h.emit es with info := info, next := next } :=
  ⟨hs.leaves.append hes, hbelow, htlm, hcmd⟩

/-- A descriptor is closed, and its field has none any more. -/
theorem Settled.dropSocket {fd : Int} {info : Handles} (hs : h.Settled)
    (hheld : h.info.held = .socket fd ::ₘ info.held) (htlm : info.tlm = h.info.tlm)
    (hcmd : info.cmdStatus = h.info.cmdStatus) :
    Settled { h.emit [.release (.socket fd)] with info := info } := by
  refine hs.update ?_ (fun r hr => hs.below r ?_) (htlm ▸ hs.tlm) (hcmd ▸ hs.cmdStatus)
  · rw [hheld]
    exact .release (.nil _)
  · rw [hheld]
    exact Multiset.mem_cons_of_mem hr

theorem Settled.closeSocketConnect (hs : h.Settled) :
    h.closeSocketConnect.Settled ∧ h.closeSocketConnect.info =
      { h.info with socketConnect := -1 } := by
  unfold Host.closeSocketConnect
  split
  · rename_i hfd
    exact ⟨hs.dropSocket (Handles.held_connect hfd) rfl rfl, rfl⟩
  · rename_i hfd
    have hunset : h.info.socketConnect = -1 := not_not.mp hfd
    refine ⟨hs, ?_⟩
    rw [← hunset]

theorem Settled.closeSocketListen (hs : h.Settled) :
    h.closeSocketListen.Settled ∧ h.closeSocketListen.info =
      { h.info with socketListen := -1 } := by
  unfold Host.closeSocketListen
  split
  · rename_i hfd
    exact ⟨hs.dropSocket (Handles.held_listen hfd) rfl rfl, rfl⟩
  · rename_i hfd
    have hunset : h.info.socketListen = -1 := not_not.mp hfd
    refine ⟨hs, ?_⟩
    rw [← hunset]

/-- The fields of one queue change, the others hold what they held. -/
theorem Settled.changeTlm {q : QueueHandles} {es : List (Entry Resource)} {next : Nat}
    (hs : h.Settled) (hnext : h.next ≤ next)
    (hes : Ledger.Leaves (h.info.tlm.held + h.info.besideTlm) es (q.held + h.info.besideTlm))
    (hbelow : ∀ r ∈ q.held, r.Below next) (hq : q.WellFormed "/queueTlm".toList) :
    Settled { h.emit es with info := { h.info with tlm := q }, next := next } := by
  have hheld : Handles.held { h.info with tlm := q } = q.held + h.info.besideTlm :=
    Handles.held_tlm _
  refine hs.update ?_ ?_ hq hs.cmdStatus
  · rw [hheld, Handles.held_tlm h.info]
    exact hes
  · intro r hr
    rw [hheld] at hr
    rcases Multiset.mem_add.mp hr with hr | hr
    · exact hbelow r hr
    · refine (hs.below r ?_).mono hnext
      rw [Handles.held_tlm h.info]
      exact Multiset.mem_add.mpr (Or.inr hr)

theorem Settled.changeCmdStatus {q : QueueHandles} {es : List (Entry Resource)} {next : Nat}
    (hs : h.Settled) (hnext : h.next ≤ next)
    (hes : Ledger.Leaves (h.info.cmdStatus.held + h.info.besideCmdStatus) es
      (q.held + h.info.besideCmdStatus))
    (hbelow : ∀ r ∈ q.held, r.Below next) (hq : q.WellFormed "/queueCmdStatus".toList) :
    Settled { h.emit es with info := { h.info with cmdStatus := q }, next := next } := by
  have hheld : Handles.held { h.info with cmdStatus := q } = q.held + h.info.besideCmdStatus :=
    Handles.held_cmdStatus _
  refine hs.update ?_ ?_ hs.tlm hq
  · rw [hheld, Handles.held_cmdStatus h.info]
    exact hes
  · intro r hr
    rw [hheld] at hr
    rcases Multiset.mem_add.mp hr with hr | hr
    · exact hbelow r hr
    · refine (hs.below r ?_).mono hnext
      rw [Handles.held_cmdStatus h.info]
      exact Multiset.mem_add.mpr (Or.inr hr)

theorem Settled.setTlm {q : QueueHandles} {es : List (Entry Resource)} (hs : h.Settled)
    (hes : Ledger.Leaves (h.info.tlm.held + h.info.besideTlm) es (q.held + h.info.besideTlm))
    (hle : q.held ≤ h.info.tlm.held) (hq : q.WellFormed "/queueTlm".toList) :
    Settled { h.emit es with info := { h.info with tlm := q } } := by
  refine hs.changeTlm le_rfl hes (fun r hr => hs.below r ?_) hq
  rw [Handles.held_tlm]
  exact Multiset.mem_add.mpr (Or.inl (Multiset.mem_of_le hle hr))

theorem Settled.setCmdStatus {q : QueueHandles} {es : List (Entry Resource)} (hs : h.Settled)
    (hes : Ledger.Leaves (h.info.cmdStatus.held + h.info.besideCmdStatus) es
      (q.held + h.info.besideCmdStatus))
    (hle : q.held ≤ h.info.cmdStatus.held) (hq : q.WellFormed "/queueCmdStatus".toList) :
    Settled { h.emit es with info := { h.info with cmdStatus := q } } := by
  refine hs.changeCmdStatus le_rfl hes (fun r hr => hs.below r ?_) hq
  rw [Handles.held_cmdStatus]
  exact Multiset.mem_add.mpr (Or.inl (Multiset.mem_of_le hle hr))

theorem Settled.closeMsgQueueTlm (hs : h.Settled) : h.closeMsgQueueTlm.Settled :=
  hs.setTlm (hs.tlm.closeMsgQueue _) h.info.tlm.closeMsgQueue_le hs.tlm.closeMsgQueue_wellFormed

theorem Settled.closeMsgQueueCmdStatus (hs : h.Settled) : h.closeMsgQueueCmdStatus.Settled :=
  hs.setCmdStatus (hs.cmdStatus.closeMsgQueue _) h.info.cmdStatus.closeMsgQueue_le
    hs.cmdStatus.closeMsgQueue_wellFormed

theorem Settled.freeQueueNameTlm (hs : h.Settled) (hmsg : h.info.tlm.pMsg = none) :
    h.freeQueueNameTlm.Settled ∧ h.freeQueueNameTlm.info.tlm.held = 0 := by
  obtain ⟨hleaves, hzero, hq⟩ := hs.tlm.freeQueueName (by decide) hmsg
    h.info.besideTlm
  refine ⟨hs.setTlm ?_ ?_ hq, hzero⟩
  · rw [hzero, zero_add]
    exact hleaves
  · rw [hzero]
    exact Multiset.zero_le _

theorem Settled.freeQueueNameCmdStatus (hs : h.Settled) (hmsg : h.info.cmdStatus.pMsg = none) :
    h.freeQueueNameCmdStatus.Settled ∧ h.freeQueueNameCmdStatus.info.cmdStatus.held = 0 := by
  obtain ⟨hleaves, hzero, hq⟩ := hs.cmdStatus.freeQueueName (by decide) hmsg
    h.info.besideCmdStatus
  refine ⟨hs.setCmdStatus ?_ ?_ hq, hzero⟩
  · rw [hzero, zero_add]
    exact hleaves
  · rw [hzero]
    exact Multiset.zero_le _

/-- Closing the queues leaves the other fields. -/
theorem closeMsgQueues_info (h : Host) : ∃ tlm cmdStatus,
    (h.closeMsgQueueTlm.freeQueueNameTlm |>.closeMsgQueueCmdStatus.freeQueueNameCmdStatus).info =
      { h.info with tlm := tlm, cmdStatus := cmdStatus } := ⟨_, _, rfl⟩

/-- `cmdTlmServer_basicClose` releases everything that is held. -/
theorem Settled.basicClose (hs : h.Settled) :
    h.basicClose.Settled ∧ h.basicClose.info.held = 0 := by
  obtain ⟨h1, hconnect⟩ := hs.closeSocketConnect
  obtain ⟨h2, hlisten⟩ := h1.closeSocketListen
  have h3 := h2.closeMsgQueueTlm
  obtain ⟨h4, htlm⟩ := h3.freeQueueNameTlm (QueueHandles.closeMsgQueue_pMsg _)
  have h5 := h4.closeMsgQueueCmdStatus
  obtain ⟨h6, hcmd⟩ := h5.freeQueueNameCmdStatus (QueueHandles.closeMsgQueue_pMsg _)
  refine ⟨h6, ?_⟩
  have hsocket : h.basicClose.info.socketConnect = -1 ∧ h.basicClose.info.socketListen = -1 := by
    obtain ⟨_, _, hinfo⟩ := closeMsgQueues_info h.closeSocketConnect.closeSocketListen
    unfold Host.basicClose
    rw [hinfo, hlisten, hconnect]
    exact ⟨rfl, rfl⟩
  have htlm' : h.basicClose.info.tlm.held = 0 := htlm
  have hcmd' : h.basicClose.info.cmdStatus.held = 0 := hcmd
  unfold Handles.held
  rw [hsocket.1, hsocket.2, htlm', hcmd']
  rfl

/-- Only for a left queue a message of no bytes gets as far as `g_malloc0_n`. -/
theorem doubled_ne_zero {isLeftOver : Bool} {maxNumMsg : Int} {sizeMsg : Nat}
    (hsized : 0 < sizeMsg ∨ isLeftOver = false)
    (hopens : isLeftOver = true ∨ 0 < maxNumMsg ∧ (0 : Int) < sizeMsg) : ¬ sizeMsg * 2 = 0 := by
  rcases hsized with hpos | hnew
  · omega
  · rcases hopens with hleft | hattr
    · rw [hnew] at hleft
      cases hleft
    · omega

theorem openMsgQueue_opened {ok isLeftOver : Bool} {maxNumMsg : Int} {sizeMsg : Nat}
    (hok : ok = true ∧ (isLeftOver = true ∨ 0 < maxNumMsg ∧ (0 : Int) < sizeMsg))
    (hsize : ¬ sizeMsg * 2 = 0) (q : QueueHandles) :
    h.openMsgQueue ok isLeftOver maxNumMsg sizeMsg q =
      ({ q with msgQueue := h.next, pMsg := some (h.next + 1) },
        { h.emit ([.use (.name q.pQueueName), .acquire (.queue h.next),
            .acquire (.registration q.pQueueName.text)] ++ [.acquire (.buffer (h.next + 1))]) with
          next := h.next + 2 }) := by
  have hfd : ¬ (h.next : Int) = -1 := by omega
  simp only [openMsgQueue, createMsgQueue, if_pos hok, if_neg hfd, gMalloc0N, if_neg hsize, take,
    emit, List.append_assoc]

theorem openMsgQueue_refused {ok isLeftOver : Bool} {maxNumMsg : Int} {sizeMsg : Nat}
    (hok : ¬ (ok = true ∧ (isLeftOver = true ∨ 0 < maxNumMsg ∧ (0 : Int) < sizeMsg)))
    (q : QueueHandles) :
    h.openMsgQueue ok isLeftOver maxNumMsg sizeMsg q =
      ({ q with msgQueue := -1 }, h.emit [.use (.name q.pQueueName)]) := by
  simp only [openMsgQueue, createMsgQueue, if_neg hok, if_true]

/-- What `openMsgQueue` adds to a queue with a name: there is a message for every queue that is
opened. -/
theorem openMsgQueue_spec (ok : Bool) {isLeftOver : Bool} {maxNumMsg : Int} {sizeMsg : Nat}
    (hsized : 0 < sizeMsg ∨ isLeftOver = false) {q : QueueHandles} {pNameBase : List Char}
    {rest : Multiset Resource} (hq : q.WellFormed pNameBase)
    (hname : q.pQueueName.block ≠ none) (hmsg : q.pMsg = none)
    (hbelow : ∀ r ∈ q.held + rest, r.Below h.next)
    (hreg : .registration q.pQueueName.text ∉ rest) :
    ∃ es next, (h.openMsgQueue ok isLeftOver maxNumMsg sizeMsg q).2 =
        { h.emit es with next := next } ∧
      Ledger.Leaves (q.held + rest) es
        ((h.openMsgQueue ok isLeftOver maxNumMsg sizeMsg q).1.held + rest) ∧
      h.next ≤ next ∧
      (∀ r ∈ (h.openMsgQueue ok isLeftOver maxNumMsg sizeMsg q).1.held, r.Below next) ∧
      (h.openMsgQueue ok isLeftOver maxNumMsg sizeMsg q).1.WellFormed pNameBase := by
  have hheld : q.held = {.name q.pQueueName} := by
    obtain ⟨block, hblock⟩ := Option.ne_none_iff_exists'.mp hname
    rw [QueueHandles.held_none hmsg, QueueHandles.nameHeld_some hblock]
  have huse : .name q.pQueueName ∈ q.held + rest := by
    rw [hheld]
    simp
  by_cases hok : ok = true ∧ (isLeftOver = true ∨ 0 < maxNumMsg ∧ (0 : Int) < sizeMsg)
  · rw [openMsgQueue_opened hok (doubled_ne_zero hsized hok.2)]
    refine ⟨_, _, rfl, ?_, by omega, ?_, ?_⟩
    · have hqueue : .queue h.next ∉ q.held + rest := fun hr => lt_irrefl _ (hbelow _ hr)
      have hbuffer : .buffer (h.next + 1) ∉ q.held + rest := by
        intro hr
        have hlt : h.next + 1 < h.next := hbelow _ hr
        omega
      have hnew : QueueHandles.held { q with msgQueue := h.next, pMsg := some (h.next + 1) } +
          rest = .buffer (h.next + 1) ::ₘ .registration q.pQueueName.text ::ₘ .queue h.next ::ₘ
            (q.held + rest) := by
        rw [QueueHandles.held_some rfl, QueueHandles.held_none hmsg, Multiset.cons_add,
          Multiset.cons_add, Multiset.cons_add]
        exact congrArg (Multiset.cons _) (Multiset.cons_swap _ _ _)
      rw [hnew]
      refine .use huse (.acquire hqueue (.acquire ?_ (.acquire ?_ (.nil _))))
      · rw [hheld]
        simpa using hreg
      · simpa using hbuffer
    · rw [QueueHandles.held_some rfl]
      intro r hr
      simp only [Multiset.mem_cons] at hr
      rcases hr with rfl | rfl | rfl | hr
      · exact Nat.lt_succ_self _
      · change (h.next : Int) < ((h.next + 2 : Nat) : Int)
        omega
      · trivial
      · have hr' : r ∈ q.held + rest := by
          rw [QueueHandles.held_none hmsg]
          exact Multiset.mem_add.mpr (Or.inl hr)
        exact (hbelow r hr').mono (Nat.le_add_right _ 2)
    · exact ⟨hq.name, fun _ => hname⟩
  · have hsame : QueueHandles.held { q with msgQueue := -1 } = q.held :=
      (QueueHandles.held_none (q := { q with msgQueue := -1 }) hmsg).trans
        (QueueHandles.held_none hmsg).symm
    rw [openMsgQueue_refused hok]
    refine ⟨_, h.next, rfl, ?_, le_rfl, ?_, hq.name, fun hne => absurd hmsg hne⟩
    · rw [hsame]
      exact .use huse (.nil _)
    · rw [hsame]
      exact fun r hr => hbelow r (Multiset.mem_add.mpr (Or.inl hr))

/-- A name is made for a queue without one. -/
theorem named_leaves {pNameBase : List Char} {identifier : Int} {rest : Multiset Resource}
    (hrest : ∀ r ∈ rest, r.Below h.next) {q : QueueHandles} (hq : q = ⟨⟨some h.next,
      pNameBase ++ Numerals.decimal identifier⟩, -1, none⟩) :
    Ledger.Leaves (QueueHandles.unset.held + rest) [.acquire (.name q.pQueueName)]
      (q.held + rest) ∧ (∀ r ∈ q.held, r.Below (h.next + 1)) ∧ q.WellFormed pNameBase := by
  have hheld : q.held = {.name q.pQueueName} := by rw [hq]; rfl
  have hblock : q.pQueueName.block = some h.next := by rw [hq]
  rw [hheld, QueueHandles.held_unset, zero_add, Multiset.singleton_add]
  refine ⟨.acquire ?_ (.nil _), ?_, ?_⟩
  · intro hr
    exact lt_irrefl _ (hrest _ hr _ hblock)
  · intro r hr
    rw [Multiset.mem_singleton] at hr
    subst hr
    intro x hx
    cases hblock.symm.trans hx
    exact Nat.lt_succ_self _
  · rw [hq]
    exact ⟨Or.inr ⟨_, _, rfl⟩, fun hne => absurd rfl hne⟩

theorem joinName_some {pNameBase : List Char} {identifier : Int} {r : CharPtr × Host}
    (hr : h.joinName pNameBase identifier = some r) :
    r = (⟨some h.next, pNameBase ++ Numerals.decimal identifier⟩,
      h.take.2.emit [.acquire
        (.name ⟨some h.next, pNameBase ++ Numerals.decimal identifier⟩)]) := by
  obtain ⟨text, htext, rfl⟩ := Option.map_eq_some_iff.mp hr
  unfold genNameMsgQueue at htext
  split at htext
  · cases htext
  · cases htext
    rfl

theorem Settled.nameCmdStatus {t : Host} {identifier : Int} (hs : h.Settled)
    (hq : h.info.cmdStatus = .unset) (ht : h.nameCmdStatus identifier = some t) :
    t.Settled ∧ t.info.cmdStatus.pQueueName.block ≠ none ∧ t.info.cmdStatus.pMsg = none ∧
      t.info.tlm = h.info.tlm := by
  obtain ⟨r, hname, rfl⟩ := Option.map_eq_some_iff.mp ht
  obtain rfl := joinName_some hname
  have hrest : ∀ r ∈ h.info.besideCmdStatus, r.Below h.next := by
    intro r hr
    refine hs.below r ?_
    rw [Handles.held_cmdStatus]
    exact Multiset.mem_add.mpr (Or.inr hr)
  obtain ⟨hleaves, hbelow, hnamed⟩ := named_leaves hrest (congrArg
    (fun q : QueueHandles => { q with
      pQueueName := ⟨some h.next, "/queueCmdStatus".toList ++ Numerals.decimal identifier⟩ }) hq)
  rw [← hq] at hleaves
  exact ⟨hs.changeCmdStatus (Nat.le_succ _) hleaves hbelow hnamed, Option.some_ne_none _,
    congrArg QueueHandles.pMsg hq, rfl⟩

theorem Settled.nameTlm {t : Host} {identifier : Int} (hs : h.Settled)
    (hq : h.info.tlm = .unset) (ht : h.nameTlm identifier = some t) :
    t.Settled ∧ t.info.tlm.pQueueName.block ≠ none ∧ t.info.tlm.pMsg = none ∧
      t.info.cmdStatus = h.info.cmdStatus := by
  obtain ⟨r, hname, rfl⟩ := Option.map_eq_some_iff.mp ht
  obtain rfl := joinName_some hname
  have hrest : ∀ r ∈ h.info.besideTlm, r.Below h.next := by
    intro r hr
    refine hs.below r ?_
    rw [Handles.held_tlm]
    exact Multiset.mem_add.mpr (Or.inr hr)
  obtain ⟨hleaves, hbelow, hnamed⟩ := named_leaves hrest (congrArg
    (fun q : QueueHandles => { q with
      pQueueName := ⟨some h.next, "/queueTlm".toList ++ Numerals.decimal identifier⟩ }) hq)
  rw [← hq] at hleaves
  exact ⟨hs.changeTlm (Nat.le_succ _) hleaves hbelow hnamed, Option.some_ne_none _,
    congrArg QueueHandles.pMsg hq, rfl⟩

theorem Settled.openCmdStatus (hs : h.Settled) (ok isLeftOver : Bool)
    (hname : h.info.cmdStatus.pQueueName.block ≠ none) (hmsg : h.info.cmdStatus.pMsg = none)
    (htlm : h.info.tlm.pMsg = none) :
    (h.openCmdStatus ok isLeftOver).Settled ∧
      (h.openCmdStatus ok isLeftOver).info.tlm = h.info.tlm ∧
      (h.openCmdStatus ok isLeftOver).info.sizeMsgTlm = h.info.sizeMsgTlm := by
  have hreg : .registration h.info.cmdStatus.pQueueName.text ∉ h.info.besideCmdStatus := by
    unfold Handles.besideCmdStatus
    simp only [Multiset.mem_add, registration_not_mem_socketHeld, false_or]
    exact fun hmem => (QueueHandles.registration_mem_held hmem).1 htlm
  have hbelow : ∀ r ∈ h.info.cmdStatus.held + h.info.besideCmdStatus, r.Below h.next := by
    rw [← Handles.held_cmdStatus]
    exact hs.below
  have hsize : 0 < sizeofCommandStatus := by decide
  obtain ⟨es, next, hhost, hleaves, hnext, hbelow', hq⟩ :=
    openMsgQueue_spec ok (Or.inl hsize) hs.cmdStatus hname hmsg hbelow hreg
  unfold Host.openCmdStatus
  dsimp only
  rw [hhost]
  exact ⟨hs.changeCmdStatus hnext hleaves hbelow' hq, rfl, rfl⟩

theorem Settled.openTlm (hs : h.Settled) (ok : Bool) {isLeftOver : Bool} (maxNumQueueTlm : Int)
    (hsized : 0 < h.info.sizeMsgTlm.toNat ∨ isLeftOver = false)
    (hname : h.info.tlm.pQueueName.block ≠ none) (hmsg : h.info.tlm.pMsg = none) :
    (h.openTlm ok isLeftOver maxNumQueueTlm).Settled := by
  have hreg : .registration h.info.tlm.pQueueName.text ∉ h.info.besideTlm := by
    unfold Handles.besideTlm
    simp only [Multiset.mem_add, registration_not_mem_socketHeld, false_or]
    intro hmem
    obtain ⟨hopen, heq⟩ := QueueHandles.registration_mem_held hmem
    rcases hs.tlm.name with htlm | ⟨n, m, htlm⟩
    · exact hname (congrArg CharPtr.block htlm)
    · rcases hs.cmdStatus.name with hcmd | ⟨n', m', hcmd⟩
      · exact hs.cmdStatus.named hopen (congrArg CharPtr.block hcmd)
      · rw [htlm, hcmd] at heq
        exact names_ne m m' heq
  have hbelow : ∀ r ∈ h.info.tlm.held + h.info.besideTlm, r.Below h.next := by
    rw [← Handles.held_tlm]
    exact hs.below
  obtain ⟨es, next, hhost, hleaves, hnext, hbelow', hq⟩ :=
    openMsgQueue_spec ok hsized hs.tlm hname hmsg hbelow hreg
  unfold Host.openTlm
  dsimp only
  rw [hhost]
  exact hs.changeTlm hnext hleaves hbelow' hq

theorem nameMsgQueues_info {t u : Host} {identifier : Int}
    (ht : h.nameCmdStatus identifier = some t) (hu : t.nameTlm identifier = some u) :
    u.info.sizeMsgTlm = h.info.sizeMsgTlm ∧ u.info.socketConnect = h.info.socketConnect := by
  obtain ⟨r, hname, rfl⟩ := Option.map_eq_some_iff.mp ht
  obtain ⟨r', hname', rfl⟩ := Option.map_eq_some_iff.mp hu
  obtain rfl := joinName_some hname
  obtain rfl := joinName_some hname'
  exact ⟨rfl, rfl⟩

theorem Settled.prepareMsgQueue {identifier maxNumQueueTlm : Int} {res : InitResults}
    {left : LeftOver} {r : Int × Host} (hs : h.Settled) (hcmd : h.info.cmdStatus = .unset)
    (htlm : h.info.tlm = .unset) (hsized : 0 < h.info.sizeMsgTlm.toNat ∨ left.tlm = false)
    (hr : h.prepareMsgQueue identifier maxNumQueueTlm res left = some r) : r.2.Settled := by
  obtain ⟨t, ht, hr⟩ := Option.bind_eq_some_iff.mp hr
  obtain ⟨u, hu, rfl⟩ := Option.map_eq_some_iff.mp hr
  obtain ⟨h1, hnameCmd, hmsgCmd, hsame⟩ := hs.nameCmdStatus hcmd ht
  obtain ⟨h2, hnameTlm, hmsgTlm, hsame'⟩ := h1.nameTlm (hsame.trans htlm) hu
  rw [← hsame'] at hnameCmd hmsgCmd
  obtain ⟨h3, hkeep, hsize⟩ := h2.openCmdStatus res.mqOpenCmdStatus left.cmdStatus hnameCmd
    hmsgCmd hmsgTlm
  rw [← (nameMsgQueues_info ht hu).1, ← hsize] at hsized
  rw [← hkeep] at hnameTlm hmsgTlm
  have h4 := h3.openTlm res.mqOpenTlm maxNumQueueTlm hsized hnameTlm hmsgTlm
  unfold Host.openMsgQueues
  dsimp only
  split
  · exact h3
  · split
    · exact h4
    · exact h4

theorem openSocket_info (ok : Bool) : (h.openSocket ok).2.info = h.info := by
  cases ok
  · rfl
  · rfl

/-- A descriptor is kept in a field that had none. -/
theorem Settled.addSocket {info : Handles} (hs : h.Settled)
    (hheld : info.held = .socket h.next ::ₘ h.info.held) (htlm : info.tlm = h.info.tlm)
    (hcmd : info.cmdStatus = h.info.cmdStatus) :
    Settled { h.emit [.acquire (.socket h.next)] with info := info, next := h.next + 1 } := by
  refine hs.update ?_ ?_ (htlm ▸ hs.tlm) (hcmd ▸ hs.cmdStatus)
  · rw [hheld]
    exact .acquire (fun hr => lt_irrefl _ (hs.below _ hr)) (.nil _)
  · intro r hr
    rw [hheld] at hr
    rcases Multiset.mem_cons.mp hr with rfl | hr
    · change (h.next : Int) < ((h.next + 1 : Nat) : Int)
      omega
    · exact (hs.below r hr).mono (Nat.le_succ _)

theorem Settled.openListen (hs : h.Settled) (ok : Bool) (hfd : h.info.socketListen = -1) :
    Settled { (h.openSocket ok).2 with
      info := { (h.openSocket ok).2.info with socketListen := (h.openSocket ok).1 } } := by
  cases ok with
  | false =>
    have hsame : ({ h with info := { h.info with socketListen := -1 } } : Host) = h := by
      rw [← hfd]
    exact hsame ▸ hs
  | true =>
    have hne : (h.next : Int) ≠ -1 := by omega
    have hsame : { h.info with socketListen := -1 } = h.info := by rw [← hfd]
    have hheld : Handles.held { h.info with socketListen := h.next } =
        .socket h.next ::ₘ h.info.held := by
      rw [Handles.held_listen hne]
      dsimp only
      rw [hsame]
    exact hs.addSocket hheld rfl rfl

theorem Settled.openConnect (hs : h.Settled) (ok : Bool) (hfd : h.info.socketConnect = -1) :
    Settled { (h.openSocket ok).2 with
      info := { (h.openSocket ok).2.info with socketConnect := (h.openSocket ok).1 } } := by
  cases ok with
  | false =>
    have hsame : ({ h with info := { h.info with socketConnect := -1 } } : Host) = h := by
      rw [← hfd]
    exact hsame ▸ hs
  | true =>
    have hne : (h.next : Int) ≠ -1 := by omega
    have hsame : { h.info with socketConnect := -1 } = h.info := by rw [← hfd]
    have hheld : Handles.held { h.info with socketConnect := h.next } =
        .socket h.next ::ₘ h.info.held := by
      rw [Handles.held_connect hne]
      dsimp only
      rw [hsame]
    exact hs.addSocket hheld rfl rfl

/-- `cmdTlmServer_init` of a server that holds nothing, whatever its fields are. -/
theorem init_settled {sizeMsgTlm : UInt32} {port maxNumQueueTlm : Int} {res : InitResults}
    {left : LeftOver} {r : Int × Host} (hs : Ledger.Leaves 0 h.trace 0)
    (hsized : 0 < sizeMsgTlm.toNat ∨ left.tlm = false)
    (hr : h.init sizeMsgTlm port maxNumQueueTlm res left = some r) :
    r.2.Settled ∧ (r.1 ≠ 0 → r.2.info.held = 0) := by
  have h0 : (h.initServerInfo sizeMsgTlm).Settled :=
    ⟨hs, fun r hr => absurd hr (Multiset.notMem_zero r), .unset _, .unset _⟩
  have h1 := h0.openListen res.tcpServerOpen rfl
  have hinfo := openSocket_info (h := h.initServerInfo sizeMsgTlm) res.tcpServerOpen
  unfold Host.init at hr
  dsimp only at hr
  split at hr
  · rename_i hfd
    cases hr
    refine ⟨h1, fun _ => ?_⟩
    rw [Handles.held, hfd, hinfo]
    rfl
  · obtain ⟨p, hp, rfl⟩ := Option.map_eq_some_iff.mp hr
    have hsize : (openSocket res.tcpServerOpen (h.initServerInfo sizeMsgTlm)).2.info.sizeMsgTlm =
        sizeMsgTlm := congrArg Handles.sizeMsgTlm hinfo
    rw [← hsize] at hsized
    have h2 := h1.prepareMsgQueue (congrArg Handles.cmdStatus hinfo) (congrArg Handles.tlm hinfo)
      hsized hp
    split
    · obtain ⟨h3, hzero⟩ := h2.basicClose
      exact ⟨h3, fun _ => hzero⟩
    · exact ⟨h2, fun hne => absurd rfl hne⟩

theorem Settled.close (hs : h.Settled) : h.close.Settled ∧ h.close.info.held = 0 := by
  have hexit : Settled { h with
      info := { h.info with
        isReadyTlm := exitThread h.info.isReadyTlm
        isReadyServer := exitThread h.info.isReadyServer } } :=
    ⟨hs.leaves, hs.below, hs.tlm, hs.cmdStatus⟩
  exact hexit.basicClose

/-- The server after some calls. -/
structure Sound (h : Host) : Prop where
  settled : h.phase ≠ .blank → h.Settled
  closed : h.phase ≠ .opened → Ledger.Leaves 0 h.trace 0

theorem Sound.of_settled (hs : h.Settled) (hzero : h.info.held = 0) : h.Sound := by
  have hleaves := hs.leaves
  rw [hzero] at hleaves
  exact ⟨fun _ => hs, fun _ => hleaves⟩

theorem Sound.of_opened (hs : h.Settled) (hphase : h.phase = .opened) : h.Sound :=
  ⟨fun _ => hs, fun hne => absurd hphase hne⟩

theorem Settled.setPhase (hs : h.Settled) (phase : Phase) : Settled { h with phase := phase } :=
  ⟨hs.leaves, hs.below, hs.tlm, hs.cmdStatus⟩

theorem Sound.step {t : Host} {c : Call} (hs : h.Sound) (hsized : c.Sized)
    (hstep : h.step c = some t) : t.Sound := by
  cases c with
  | init sizeMsgTlm port maxNumQueueTlm res left =>
    simp only [Host.step] at hstep
    split at hstep
    · cases hstep
    · rename_i hphase
      obtain ⟨r, hr, rfl⟩ := Option.map_eq_some_iff.mp hstep
      obtain ⟨hinit, hfail⟩ := init_settled (hs.closed hphase) hsized hr
      by_cases hzero : r.1 = 0
      · rw [if_pos hzero]
        exact .of_opened (hinit.setPhase _) rfl
      · exact .of_settled (hinit.setPhase _) (hfail hzero)
  | runInNewThread =>
    simp only [Host.step] at hstep
    split at hstep
    · rename_i hphase
      cases hstep
      have hsettled := hs.settled (by rw [hphase]; decide)
      exact .of_opened ⟨hsettled.leaves, hsettled.below, hsettled.tlm, hsettled.cmdStatus⟩ hphase
    · cases hstep
  | accept ok =>
    simp only [Host.step] at hstep
    split at hstep
    · rename_i hphase
      cases hstep
      have hsettled := hs.settled (by rw [hphase.1]; decide)
      refine .of_opened (hsettled.openConnect ok hphase.2) ?_
      cases ok
      · exact hphase.1
      · exact hphase.1
    · cases hstep
  | closeConn =>
    simp only [Host.step] at hstep
    split at hstep
    · rename_i hphase
      cases hstep
      have hsettled := hs.settled (by rw [hphase.1]; decide)
      refine .of_opened hsettled.closeSocketConnect.1 ?_
      rw [closeSocketConnect, if_pos hphase.2]
      exact hphase.1
    · cases hstep
  | basicClose =>
    simp only [Host.step] at hstep
    split at hstep
    · cases hstep
    · rename_i hphase
      cases hstep
      obtain ⟨hsettled, hzero⟩ := (hs.settled hphase).basicClose
      exact .of_settled (hsettled.setPhase _) hzero
  | close =>
    simp only [Host.step] at hstep
    split at hstep
    · cases hstep
    · rename_i hphase
      cases hstep
      obtain ⟨hsettled, hzero⟩ := (hs.settled hphase).close
      exact .of_settled (hsettled.setPhase _) hzero

end

end Host

/-- The fields of the server information as the threads of the server see them. -/
structure Handles.Shows (info : Handles) (server : ServerInfo) : Prop where
  socketListen : server.socketListen = info.socketListen
  socketConnect : server.socketConnect = info.socketConnect
  cmdStatus : server.pMsgCmdStatus.isSome = info.cmdStatus.pMsg.isSome
  queueCmdStatus : server.msgQueueCmdStatus.isSome = info.cmdStatus.pMsg.isSome
  tlm : server.pMsgTlm.isSome = info.tlm.pMsg.isSome
  queueTlm : server.msgQueueTlm.isSome = info.tlm.pMsg.isSome

section
variable {h : Host} {s : Server}

theorem Handles.Shows.closeSocketConnect (hshows : h.info.Shows s.info) :
    h.closeSocketConnect.info.Shows s.closeSocketConnect.info := by
  unfold Host.closeSocketConnect Server.closeSocketConnect
  rw [hshows.socketConnect]
  split
  · exact { hshows with socketConnect := rfl }
  · exact hshows

theorem Handles.Shows.closeSocketListen (hshows : h.info.Shows s.info) :
    h.closeSocketListen.info.Shows s.closeSocketListen.info := by
  unfold Host.closeSocketListen Server.closeSocketListen
  rw [hshows.socketListen]
  split
  · exact { hshows with socketListen := rfl }
  · exact hshows

theorem Handles.Shows.closeMsgQueueTlm (hshows : h.info.Shows s.info) :
    h.closeMsgQueueTlm.info.Shows s.closeMsgQueueTlm.info := by
  have hmsg : h.closeMsgQueueTlm.info.tlm.pMsg = none := QueueHandles.closeMsgQueue_pMsg _
  unfold Server.closeMsgQueueTlm
  split
  · refine { hshows with tlm := ?_, queueTlm := ?_ }
    · rw [hmsg]
      rfl
    · rw [hmsg]
      rfl
  · rename_i hnone
    have hnone : s.info.pMsgTlm = none := not_not.mp hnone
    have hqueue := hshows.queueTlm.trans hshows.tlm.symm
    refine { hshows with tlm := ?_, queueTlm := ?_ }
    · rw [hmsg, hnone]
      rfl
    · rw [hmsg, hqueue, hnone]
      rfl

theorem Handles.Shows.closeMsgQueueCmdStatus (hshows : h.info.Shows s.info) :
    h.closeMsgQueueCmdStatus.info.Shows s.closeMsgQueueCmdStatus.info := by
  have hmsg : h.closeMsgQueueCmdStatus.info.cmdStatus.pMsg = none :=
    QueueHandles.closeMsgQueue_pMsg _
  unfold Server.closeMsgQueueCmdStatus
  split
  · refine { hshows with cmdStatus := ?_, queueCmdStatus := ?_ }
    · rw [hmsg]
      rfl
    · rw [hmsg]
      rfl
  · rename_i hnone
    have hnone : s.info.pMsgCmdStatus = none := not_not.mp hnone
    have hqueue := hshows.queueCmdStatus.trans hshows.cmdStatus.symm
    refine { hshows with cmdStatus := ?_, queueCmdStatus := ?_ }
    · rw [hmsg, hnone]
      rfl
    · rw [hmsg, hqueue, hnone]
      rfl

theorem Handles.Shows.freeQueueNames (hshows : h.info.Shows s.info) :
    h.freeQueueNameTlm.info.Shows s.info ∧ h.freeQueueNameCmdStatus.info.Shows s.info := by
  have htlm : h.freeQueueNameTlm.info.tlm.pMsg = h.info.tlm.pMsg :=
    QueueHandles.freeQueueName_pMsg _
  have hcmd : h.freeQueueNameCmdStatus.info.cmdStatus.pMsg = h.info.cmdStatus.pMsg :=
    QueueHandles.freeQueueName_pMsg _
  refine ⟨{ hshows with tlm := ?_, queueTlm := ?_ },
    { hshows with cmdStatus := ?_, queueCmdStatus := ?_ }⟩
  · rw [htlm, hshows.tlm]
  · rw [htlm, hshows.queueTlm]
  · rw [hcmd, hshows.cmdStatus]
  · rw [hcmd, hshows.queueCmdStatus]

/-- `cmdTlmServer_basicClose` of the host is the one that the threads of the server call. -/
theorem Handles.Shows.basicClose (hshows : h.info.Shows s.info) :
    h.basicClose.info.Shows s.basicClose.info :=
  hshows.closeSocketConnect.closeSocketListen.closeMsgQueueTlm.freeQueueNames.1
    |>.closeMsgQueueCmdStatus.freeQueueNames.2

theorem openMsgQueue_isSome {ok isLeftOver : Bool} {maxNumMsg : Int} {sizeMsg : Nat}
    {q : QueueHandles} (hsized : 0 < sizeMsg ∨ isLeftOver = false)
    (hq : (h.openMsgQueue ok isLeftOver maxNumMsg sizeMsg q).1.msgQueue ≠ -1) :
    (h.openMsgQueue ok isLeftOver maxNumMsg sizeMsg q).1.pMsg.isSome = true := by
  by_cases hok : ok = true ∧ (isLeftOver = true ∨ 0 < maxNumMsg ∧ (0 : Int) < sizeMsg)
  · rw [Host.openMsgQueue_opened hok (Host.doubled_ne_zero hsized hok.2)]
    rfl
  · rw [Host.openMsgQueue_refused hok] at hq
    exact absurd rfl hq

theorem openMsgQueue_info (ok isLeftOver : Bool) (maxNumMsg : Int) (sizeMsg : Nat)
    (q : QueueHandles) : (h.openMsgQueue ok isLeftOver maxNumMsg sizeMsg q).2.info = h.info := by
  unfold Host.openMsgQueue Host.createMsgQueue Host.gMalloc0N
  dsimp only
  split
  · split
    · rfl
    · split
      · rfl
      · rfl
  · rfl

theorem prepareMsgQueue_isSome {identifier maxNumQueueTlm : Int} {res : InitResults}
    {left : LeftOver} {r : Int × Host}
    (hr : h.prepareMsgQueue identifier maxNumQueueTlm res left = some r)
    (hsized : 0 < h.info.sizeMsgTlm.toNat ∨ left.tlm = false) (hok : r.1 ≠ -1) :
    r.2.info.cmdStatus.pMsg.isSome = true ∧ r.2.info.tlm.pMsg.isSome = true ∧
      r.2.info.socketConnect = h.info.socketConnect := by
  obtain ⟨t, ht, hr⟩ := Option.bind_eq_some_iff.mp hr
  obtain ⟨u, hu, rfl⟩ := Option.map_eq_some_iff.mp hr
  obtain ⟨hsize, hconnect⟩ := Host.nameMsgQueues_info ht hu
  rw [← hsize] at hsized
  rw [← hconnect]
  have hcmdSize : 0 < sizeofCommandStatus ∨ left.cmdStatus = false := Or.inl (by decide)
  revert hok
  unfold Host.openMsgQueues
  dsimp only
  split
  · exact fun herror => absurd rfl herror
  · rename_i hcmd
    split
    · exact fun herror => absurd rfl herror
    · rename_i htlm
      intro _
      have hopened : (u.openCmdStatus res.mqOpenCmdStatus left.cmdStatus).info.cmdStatus.pMsg.isSome
          = true := openMsgQueue_isSome hcmdSize hcmd
      have hkeep : (u.openCmdStatus res.mqOpenCmdStatus left.cmdStatus).info =
          { u.info with cmdStatus :=
            (u.openCmdStatus res.mqOpenCmdStatus left.cmdStatus).info.cmdStatus } := by
        unfold Host.openCmdStatus Host.setCmdStatus
        dsimp only
        rw [openMsgQueue_info]
      generalize u.openCmdStatus res.mqOpenCmdStatus left.cmdStatus = v at *
      rw [← congrArg Handles.sizeMsgTlm hkeep] at hsized
      unfold Host.openTlm at htlm ⊢
      refine ⟨?_, openMsgQueue_isSome hsized htlm, ?_⟩
      · change (Host.openMsgQueue _ _ _ _ _ _).2.info.cmdStatus.pMsg.isSome = true
        rw [openMsgQueue_info]
        exact hopened
      · change (Host.openMsgQueue _ _ _ _ _ _).2.info.socketConnect = _
        rw [openMsgQueue_info, hkeep]

/-- A successful `cmdTlmServer_init` sets the fields with which the threads start. -/
theorem init_shows {sizeMsgTlm : UInt32} {port maxNumQueueTlm : Int} {res : InitResults}
    {left : LeftOver} {r : Int × Host} (hsized : 0 < sizeMsgTlm.toNat ∨ left.tlm = false)
    (hr : h.init sizeMsgTlm port maxNumQueueTlm res left = some r) (hinit : r.1 = 0)
    (cmdMsgBuffer : CircularBuf) :
    r.2.info.Shows (.init sizeMsgTlm.toNat r.2.info.socketListen maxNumQueueTlm.toNat
      cmdMsgBuffer) := by
  have hinfo := Host.openSocket_info (h := h.initServerInfo sizeMsgTlm) res.tcpServerOpen
  unfold Host.init at hr
  dsimp only at hr
  split at hr
  · cases hr
    cases hinit
  · obtain ⟨p, hp, rfl⟩ := Option.map_eq_some_iff.mp hr
    have hsize : (Host.openSocket res.tcpServerOpen
        (h.initServerInfo sizeMsgTlm)).2.info.sizeMsgTlm = sizeMsgTlm :=
      congrArg Handles.sizeMsgTlm hinfo
    rw [← hsize] at hsized
    split at hinit
    · cases hinit
    · rename_i hok
      obtain ⟨hcmd, htlm, hconnect⟩ := prepareMsgQueue_isSome hp hsized hok
      rw [if_neg hok]
      refine ⟨rfl, ?_, hcmd.symm, hcmd.symm, htlm.symm, htlm.symm⟩
      rw [hconnect, hinfo]
      rfl

end

/-- Every resource is released at most once and only while it is held, a queue is unlinked
under its name before the name is freed, and nothing is held when the server is closed, after
a failing `cmdTlmServer_init` as well. A queue without a message is not closed. -/
theorem resources_released (info : Handles) (cs : List Call) (h : Host)
    (hsized : ∀ c ∈ cs, c.Sized) (hr : Runs.run Host.step (.blank info) cs = some h) :
    ∃ held, Ledger.Leaves 0 h.trace held ∧ (h.phase ≠ .opened → held = 0) ∧
      ∀ es fs r, h.trace = es ++ fs → es.count (.release r) ≤ es.count (.acquire r) := by
  have hblank : (Host.blank info).Sound := ⟨fun hne => absurd rfl hne, fun _ => .nil 0⟩
  have hsound : h.Sound := Runs.run_mem_invariant
    (fun _ _ _ hc hs hstep => hs.step (hsized _ hc) hstep) hr hblank
  have honce {held : Multiset Resource} (hleaves : Ledger.Leaves 0 h.trace held) :
      ∀ es fs r, h.trace = es ++ fs → es.count (.release r) ≤ es.count (.acquire r) := by
    intro es fs r htrace
    rw [htrace] at hleaves
    exact (hleaves.released_le r).1
  by_cases hphase : h.phase = .opened
  · have hsettled := hsound.settled (by rw [hphase]; decide)
    exact ⟨_, hsettled.leaves, fun hne => absurd hphase hne, honce hsettled.leaves⟩
  · have hleaves := hsound.closed hphase
    exact ⟨0, hleaves, fun _ => rfl, honce hleaves⟩

/-- The telemetry queue cannot be opened; the server is closed twice, opened over a left queue with
a client and closed. -/
def failThenOpen : List Call :=
  [.init 8 5570 2 ⟨true, true, false⟩ {}, .close, .basicClose, .init 8 5570 2 {} ⟨true, true⟩,
    .runInNewThread, .accept true, .close, .close]

theorem resources_released_twice : ∃ h,
    Runs.run Host.step (.blank ⟨0, 7, 8, true, true, .unset, .unset⟩) failThenOpen = some h ∧
    h.trace.length = 39 ∧ Ledger.Leaves 0 h.trace 0 := by
  have hrun : (Runs.run Host.step (.blank ⟨0, 7, 8, true, true, .unset, .unset⟩)
      failThenOpen).any (fun h => h.trace.length == 39 && h.phase == .closed) = true := by
    decide +kernel
  have hsized : ∀ c ∈ failThenOpen, c.Sized := by
    simp [failThenOpen, Call.Sized]
  obtain ⟨h, hr, hall⟩ := (Option.any_eq_true _ _).mp hrun
  obtain ⟨hlength, hphase⟩ := Bool.and_eq_true_iff.mp hall
  obtain ⟨held, hleaves, hzero, -⟩ := resources_released _ _ h hsized hr
  rw [hzero (by rw [beq_iff_eq.mp hphase]; decide)] at hleaves
  exact ⟨h, hr, beq_iff_eq.mp hlength, hleaves⟩

/-- There is a telemetry queue with the name of the port, and a telemetry message has no bytes:
`mq_open` opens the queue and `g_malloc0_n` returns NULL, so the queue is neither closed nor
unlinked. -/
theorem left_queue_not_released : ∃ h,
    Runs.run Host.step (.blank ⟨0, -1, -1, false, false, .unset, .unset⟩)
      [.init 0 5570 2 {} ⟨false, true⟩, .close] = some h ∧
    h.phase = .closed ∧
    Ledger.Leaves 0 h.trace {.queue 5, .registration "/queueTlm5570".toList} ∧
    ¬ ∃ held, Ledger.Leaves 0 h.trace held ∧ (h.phase ≠ .opened → held = 0) := by
  have hrun : (Runs.run Host.step (.blank ⟨0, -1, -1, false, false, .unset, .unset⟩)
      [.init 0 5570 2 {} ⟨false, true⟩, .close]).any (fun h => h.phase == .closed &&
        decide (Ledger.Leaves 0 h.trace {.queue 5, .registration "/queueTlm5570".toList})) =
          true := by
    decide +kernel
  obtain ⟨h, hr, hall⟩ := (Option.any_eq_true _ _).mp hrun
  obtain ⟨hphase, hleaves⟩ := Bool.and_eq_true_iff.mp hall
  have hphase := beq_iff_eq.mp hphase
  have hleaves := of_decide_eq_true hleaves
  refine ⟨h, hr, hphase, hleaves, ?_⟩
  rintro ⟨held, hheld, hzero⟩
  have hnone := hzero (by rw [hphase]; decide)
  have hsame := Option.some.inj (hheld.symm.trans hleaves)
  rw [hnone] at hsame
  exact absurd hsame.symm (Multiset.cons_ne_zero)

end HexrotPxiCom.CmdTlmServer
