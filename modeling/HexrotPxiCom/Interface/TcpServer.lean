import HexrotPxiCom.Lib.Ledger
import HexrotPxiCom.Lib.Numerals
import Mathlib.Data.Int.Order.Basic
import Mathlib.Tactic.NormNum

/-!
# Opening the listening socket

`tcpServer_open` over every answer of the system. An answer `none` of `getaddrinfo` is a failure,
which leaves the list pointer unset.
-/

namespace HexrotPxiCom.TcpServer

set_option autoImplicit false

open Numerals

inductive Resource where
  | listPotentialAddr
  | socket (fd : Int)
  deriving DecidableEq

/-- An element of the list, with the results of `socket` and `bind` for it. -/
structure PotentialAddr where
  socket : Int
  bind : Int
  deriving Repr, DecidableEq

/-- The service name and the family that are asked for. -/
structure AddrRequest where
  serviceName : List Char
  family : Int
  deriving Repr, DecidableEq

/-- What the system answers. -/
structure Network where
  getaddrinfo : AddrRequest → Option (List PotentialAddr)
  listen : Int → Int → Int

/-- The return value, and what has been done. -/
structure Opened where
  ret : Int
  trace : List (Entry Resource)

/-- The size of `serviceName`. -/
def sizeServiceName : Nat := 10

/-- The loop: the descriptor at the `break`, if there is one, and what has been done. -/
def walk : List PotentialAddr → Option Int × List (Entry Resource)
  | [] => (none, [])
  | potentialAddr :: rest =>
    let socketDesc := potentialAddr.socket
    if socketDesc < 0 then walk rest
    else
      -- `setsockopt` and `bind`
      let tried : List (Entry Resource) :=
        [.acquire (.socket socketDesc), .use (.socket socketDesc), .use (.socket socketDesc)]
      if potentialAddr.bind = 0 then (some socketDesc, tried)
      else ((walk rest).1, tried ++ .release (.socket socketDesc) :: (walk rest).2)

/-- The part behind the loop. -/
def listenOn (listen : Int → Int → Int) (maxConnection : Int) : Option Int → Opened
  | none => ⟨-1, []⟩
  | some socketDesc =>
    if listen socketDesc maxConnection = -1 then
      ⟨-1, [.use (.socket socketDesc), .release (.socket socketDesc)]⟩
    else ⟨socketDesc, [.use (.socket socketDesc)]⟩

/-- `none` is undefined behaviour: `sprintf` writes behind the array, or the unset pointer is
followed. -/
def tcpServerOpen (net : Network) (family port maxConnection : Int) : Option Opened :=
  if sizeServiceName < (decimal port).length + 1 then none
  else
    match net.getaddrinfo ⟨decimal port, family⟩ with
    | none => none
    | some listPotentialAddr =>
      let walked := walk listPotentialAddr
      let opened := listenOn net.listen maxConnection walked.1
      some ⟨opened.ret, .acquire .listPotentialAddr :: walked.2 ++
        .release .listPotentialAddr :: opened.trace⟩

/-- The first address that a socket can be bound to. -/
def firstBound (addrs : List PotentialAddr) : Option Int :=
  (addrs.find? fun a => 0 ≤ a.socket ∧ a.bind = 0).map PotentialAddr.socket

/-- The descriptor that listens, or -1. -/
def listening (net : Network) (family port maxConnection : Int) : Int :=
  match (net.getaddrinfo ⟨decimal port, family⟩).bind firstBound with
  | none => -1
  | some fd => if net.listen fd maxConnection = -1 then -1 else fd

/-- The sockets that are left open. -/
def leftOpen (ret : Int) : Multiset Resource := if ret = -1 then 0 else {.socket ret}

/-- What the header says: a descriptor that listens or -1, and no other socket stays open. -/
def OpensSocket (net : Network) (family port maxConnection : Int) : Prop :=
  (decimal port).length + 1 ≤ sizeServiceName ∧
    ∃ opened, tcpServerOpen net family port maxConnection = some opened ∧
      opened.ret = listening net family port maxConnection ∧
      Ledger.Leaves 0 opened.trace (leftOpen opened.ret)

section
variable {net : Network} {family port maxConnection : Int} {addrs : List PotentialAddr}

/-- Nine characters hold the numbers from -99,999,999 to 999,999,999. -/
theorem length_decimal_le_iff (n : Int) :
    (decimal n).length ≤ 9 ↔ -99999999 ≤ n ∧ n ≤ 999999999 := by
  unfold decimal
  by_cases hneg : n < 0
  · rw [if_pos hneg, List.length_cons, Nat.succ_le_succ_iff,
      Nat.length_toDigits_le_iff (by decide) (by decide)]
    omega
  · rw [if_neg hneg, Nat.length_toDigits_le_iff (by decide) (by decide)]
    omega

theorem firstBound_cons (a : PotentialAddr) :
    firstBound (a :: addrs) =
      if 0 ≤ a.socket ∧ a.bind = 0 then some a.socket else firstBound addrs := by
  unfold firstBound
  by_cases ha : 0 ≤ a.socket ∧ a.bind = 0
  · rw [List.find?_cons_of_pos (by simpa using ha), if_pos ha, Option.map_some]
  · rw [List.find?_cons_of_neg (by simpa using ha), if_neg ha]

theorem walk_fst (addrs : List PotentialAddr) : (walk addrs).1 = firstBound addrs := by
  induction addrs with
  | nil => rfl
  | cons a addrs ih =>
    rw [walk, firstBound_cons]
    by_cases hsocket : a.socket < 0
    · rw [if_pos hsocket, if_neg (by omega), ih]
    · rw [if_neg hsocket]
      by_cases hbind : a.bind = 0
      · rw [if_pos hbind, if_pos ⟨by omega, hbind⟩]
      · rw [if_neg hbind, if_neg (fun h => hbind h.2), ih]

/-- What the loop has opened and not closed. -/
def bound (socketDesc : Option Int) : Multiset Resource :=
  match socketDesc with
  | none => 0
  | some fd => {.socket fd}

/-- A descriptor of an address that fails is closed before the next one is opened. -/
theorem walk_leaves (addrs : List PotentialAddr) :
    Ledger.Leaves {.listPotentialAddr} (walk addrs).2
      (.listPotentialAddr ::ₘ bound (walk addrs).1) := by
  induction addrs with
  | nil => exact Ledger.Leaves.nil _
  | cons a addrs ih =>
    rw [walk]
    by_cases hsocket : a.socket < 0
    · rw [if_pos hsocket]
      exact ih
    · rw [if_neg hsocket]
      have hnew : Resource.socket a.socket ∉ ({.listPotentialAddr} : Multiset Resource) := by
        simp
      have hheld : Resource.socket a.socket ∈
          Resource.socket a.socket ::ₘ ({.listPotentialAddr} : Multiset Resource) :=
        Multiset.mem_cons_self _ _
      by_cases hbind : a.bind = 0
      · rw [if_pos hbind]
        refine .acquire hnew (.use hheld (.use hheld ?_))
        exact congrArg some (Multiset.cons_swap _ _ 0)
      · rw [if_neg hbind]
        exact .acquire hnew (.use hheld (.use hheld (.release ih)))

theorem firstBound_nonneg {fd : Int} (h : firstBound addrs = some fd) : 0 ≤ fd := by
  obtain ⟨a, ha, rfl⟩ := Option.map_eq_some_iff.mp h
  have hfound := List.find?_some ha
  exact (of_decide_eq_true hfound).1

/-- The descriptor of the loop is closed when `listen` fails, and returned when it does not. -/
theorem listenOn_leaves (listen : Int → Int → Int) {socketDesc : Option Int}
    (hfd : ∀ fd, socketDesc = some fd → 0 ≤ fd) :
    Ledger.Leaves (bound socketDesc) (listenOn listen maxConnection socketDesc).trace
      (leftOpen (listenOn listen maxConnection socketDesc).ret) := by
  cases socketDesc with
  | none => exact Ledger.Leaves.nil 0
  | some fd =>
    have hheld : Resource.socket fd ∈ bound (some fd) := Multiset.mem_singleton_self _
    have hnonneg := hfd fd rfl
    rw [listenOn]
    by_cases hlisten : listen fd maxConnection = -1
    · rw [if_pos hlisten]
      have hclosed : Ledger.Leaves (bound (some fd)) [.release (Resource.socket fd)] 0 :=
        .release (.nil 0)
      exact .use hheld hclosed
    · rw [if_neg hlisten]
      refine .use hheld ?_
      rw [leftOpen, if_neg (by dsimp only; omega)]
      exact Ledger.Leaves.nil _

theorem listenOn_ret (addrs : List PotentialAddr)
    (haddrs : net.getaddrinfo ⟨decimal port, family⟩ = some addrs) :
    (listenOn net.listen maxConnection (firstBound addrs)).ret =
      listening net family port maxConnection := by
  rw [listening, haddrs, Option.bind_some]
  cases firstBound addrs with
  | none => rfl
  | some fd =>
    rw [listenOn]
    dsimp only
    split <;> rfl

/-- With a list of addresses, the first one that works is listened on, and nothing else is left. -/
theorem tcpServerOpen_some (hfits : (decimal port).length + 1 ≤ sizeServiceName)
    (haddrs : net.getaddrinfo ⟨decimal port, family⟩ = some addrs) :
    ∃ opened, tcpServerOpen net family port maxConnection = some opened ∧
      opened.ret = listening net family port maxConnection ∧
      Ledger.Leaves 0 opened.trace (leftOpen opened.ret) := by
  have hwalk := walk_leaves addrs
  rw [walk_fst] at hwalk
  have hlisten := @listenOn_leaves maxConnection net.listen (firstBound addrs)
    fun _ => firstBound_nonneg
  unfold tcpServerOpen
  rw [if_neg (Nat.not_lt.mpr hfits), haddrs]
  dsimp only
  rw [walk_fst]
  refine ⟨_, rfl, listenOn_ret addrs haddrs, ?_⟩
  exact .acquire (Multiset.notMem_zero _) (hwalk.append (.release hlisten))

end

/-- The port must fit into the array with its NUL, and the result of `getaddrinfo` is not looked
at. -/
theorem tcpServerOpen_opensSocket_iff (net : Network) (family port maxConnection : Int) :
    OpensSocket net family port maxConnection ↔
      (-99999999 ≤ port ∧ port ≤ 999999999) ∧
        (net.getaddrinfo ⟨decimal port, family⟩).isSome := by
  have hlength : (decimal port).length + 1 ≤ sizeServiceName ↔
      -99999999 ≤ port ∧ port ≤ 999999999 := by
    rw [← length_decimal_le_iff]
    exact Nat.succ_le_succ_iff
  rw [← hlength]
  constructor
  · rintro ⟨hfits, opened, hopened, -⟩
    refine ⟨hfits, ?_⟩
    cases haddrs : net.getaddrinfo ⟨decimal port, family⟩ with
    | none =>
      rw [tcpServerOpen, if_neg (Nat.not_lt.mpr hfits), haddrs] at hopened
      cases hopened
    | some addrs => rfl
  · rintro ⟨hfits, hsome⟩
    obtain ⟨addrs, haddrs⟩ := Option.isSome_iff_exists.mp hsome
    exact ⟨hfits, tcpServerOpen_some hfits haddrs⟩

/-- One address, where everything succeeds. -/
def oneAddress : Network where
  getaddrinfo := fun _ => some [⟨3, 0⟩]
  listen := fun _ _ => 0

/-- No service name is known. -/
def noAddress : Network where
  getaddrinfo := fun _ => none
  listen := fun _ _ => 0

/-- Without an address the unset pointer is followed. The port 1,000,000,000 has ten digits, and
the NUL is written behind the array. -/
theorem tcpServerOpen_undefined : tcpServerOpen noAddress 2 5570 1 = none ∧
    ¬ OpensSocket noAddress 2 5570 1 ∧
    (decimal 1000000000).length + 1 = 11 ∧ ¬ OpensSocket oneAddress 2 1000000000 1 := by
  have hnone : tcpServerOpen noAddress 2 5570 1 = none := by rfl
  have hlength : (decimal 1000000000).length + 1 = 11 := by decide
  refine ⟨hnone, ?_, hlength, ?_⟩
  · rintro ⟨-, opened, hopened, -⟩
    rw [hnone] at hopened
    cases hopened
  · rintro ⟨hfits, -⟩
    rw [hlength] at hfits
    exact absurd hfits (by decide)

end HexrotPxiCom.TcpServer
