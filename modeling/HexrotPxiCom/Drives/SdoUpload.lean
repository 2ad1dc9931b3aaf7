import HexrotPxiCom.Lib.Loop
import HexrotPxiCom.Lib.Packed
import HexrotPxiCom.Lib.Timespec

/-!
# Reading the parameters of a drive

`driveTool_getSdoParam` asks for the state of its request until the answer is a success or an
error. The master's answers are given, the first call of `ecrt_sdo_request_state` the answer
`state 0`, the next one `state 1` and so on.
-/

namespace HexrotPxiCom.DriveTool

set_option autoImplicit false

universe u

/-- `ec_request_state_t`. -/
inductive RequestState where
  | unused
  | busy
  | success
  | error
  deriving Repr, DecidableEq

/-- What the master answers; the memory of the request is read after its success. -/
structure SdoAnswers where
  created : Bool
  timeout : Int
  state : Nat → RequestState
  data : List UInt8

inductive UploadEvent where
  | createSdoRequest (index : UInt16) (subindex : UInt8) (size : Nat)
  | sdoRequestTimeout (timeout : UInt32)
  | sdoRequestState (answer : RequestState)
  | sdoRequestRead
  | sdoRequestData
  | nanosleep (timeSleep : Timespec)
  deriving Repr, DecidableEq

/-- The locals of `driveTool_getSdoParam` with `*ppData`, how often the state has been asked for,
and what has been done. -/
structure Upload where
  status : Int
  ppData : Option (List UInt8)
  polls : Nat
  events : List UploadEvent
  deriving Repr, DecidableEq

namespace Upload

def initial : Upload := ⟨-1, none, 0, []⟩

def emit (e : UploadEvent) (s : Upload) : Upload := { s with events := s.events ++ [e] }

end Upload

def timeSleep : Timespec := ⟨0, 50000000⟩

section
variable (env : SdoAnswers)

/-- `driveTool_readSdoData`. -/
def readSdoData (s : Upload) : Int × Upload :=
  let answer := env.state s.polls
  let s := { s with polls := s.polls + 1 }.emit (.sdoRequestState answer)
  match answer with
  | .unused => (-1, s.emit .sdoRequestRead)
  | .busy => (-1, s)
  | .success => (0, { s with ppData := some env.data }.emit .sdoRequestData)
  | .error => (-2, s)

def getSdoParamTurn (s : Upload) : Upload ⊕ (Int × Upload) :=
  if s.status ≠ 0 then
    let r := readSdoData env s
    let s : Upload := { r.2 with status := r.1 }
    if s.status = -2 then .inr (-1, s) else .inl (s.emit (.nanosleep timeSleep))
  else .inr (0, s)

/-- `driveTool_getSdoParam`, with at most `fuel` turns of its loop. -/
def getSdoParam (index : UInt16) (subindex : UInt8) (size fuel : Nat) : Option (Int × Upload) :=
  let s := Upload.initial.emit (.createSdoRequest index subindex size)
  if !env.created then some (-1, s)
  else
    let s := s.emit (.sdoRequestTimeout 500)
    if env.timeout ≠ 0 then some (-1, s) else loop (getSdoParamTurn env) fuel s

end

/-- One of the macros that read EtherCAT data, and the words it reads. -/
structure EcRead (α : Type u) where
  size : Nat
  read : List UInt8 → α
  word : α → List UInt8
  read_word : ∀ v, read (word v) = v

/-- What the functions for the four types have in common: the result, `*pValue` afterwards and
what has been done. -/
def getSdoParamValue {α : Type u} (ecRead : EcRead α) (env : SdoAnswers) (index : UInt16)
    (subindex : UInt8) (pValue : α) (fuel : Nat) : Option (Int × α × List UploadEvent) :=
  (getSdoParam env index subindex ecRead.size fuel).bind fun r =>
    if r.1 = 0 then r.2.ppData.map fun pData => (0, ecRead.read pData, r.2.events)
    else some (-1, pValue, r.2.events)

/-- The macros of `ecrt.h`: EtherCAT data is little-endian. -/
structure EcMacros where
  readU16 : List UInt8 → UInt16
  readU32 : List UInt8 → UInt32
  readS16 : List UInt8 → Int16
  readS32 : List UInt8 → Int32
  readU16_word : ∀ v : UInt16, readU16 (Packed.word 2 v.toNat) = v
  readU32_word : ∀ v : UInt32, readU32 (Packed.word 4 v.toNat) = v
  readS16_word : ∀ v : Int16, readS16 (Packed.word 2 v.toUInt16.toNat) = v
  readS32_word : ∀ v : Int32, readS32 (Packed.word 4 v.toUInt32.toNat) = v

namespace EcMacros

theorem value_word_take {w n : Nat} (h : n < 256 ^ w) :
    Packed.value ((Packed.word w n).take w) = n := by
  rw [List.take_of_length_le (Nat.le_of_eq (Packed.length_word w n)), Packed.value_word h]

/-- `le16_to_cpup` and `le32_to_cpup` of the memory. -/
def littleEndian : EcMacros where
  readU16 data := UInt16.ofNat (Packed.value (data.take 2))
  readU32 data := UInt32.ofNat (Packed.value (data.take 4))
  readS16 data := Int16.ofUInt16 (UInt16.ofNat (Packed.value (data.take 2)))
  readS32 data := Int32.ofUInt32 (UInt32.ofNat (Packed.value (data.take 4)))
  readU16_word v := by rw [value_word_take v.toNat_lt, UInt16.ofNat_toNat]
  readU32_word v := by rw [value_word_take v.toNat_lt, UInt32.ofNat_toNat]
  readS16_word v := by rw [value_word_take v.toUInt16.toNat_lt, UInt16.ofNat_toNat]
  readS32_word v := by rw [value_word_take v.toUInt32.toNat_lt, UInt32.ofNat_toNat]

variable (ec : EcMacros)

def u16 : EcRead UInt16 := ⟨2, ec.readU16, fun v => Packed.word 2 v.toNat, ec.readU16_word⟩

def u32 : EcRead UInt32 := ⟨4, ec.readU32, fun v => Packed.word 4 v.toNat, ec.readU32_word⟩

def s16 : EcRead Int16 := ⟨2, ec.readS16, fun v => Packed.word 2 v.toUInt16.toNat, ec.readS16_word⟩

def s32 : EcRead Int32 := ⟨4, ec.readS32, fun v => Packed.word 4 v.toUInt32.toNat, ec.readS32_word⟩

end EcMacros

def getSdoParamU16 (ec : EcMacros) := getSdoParamValue ec.u16

def getSdoParamU32 (ec : EcMacros) := getSdoParamValue ec.u32

def getSdoParamS16 (ec : EcMacros) := getSdoParamValue ec.s16

def getSdoParamS32 (ec : EcMacros) := getSdoParamValue ec.s32

/-- The first answer that ends the loop is the one after `n` others. -/
structure Answered (env : SdoAnswers) (n : Nat) (answer : RequestState) : Prop where
  last : env.state n = answer
  before : ∀ k < n, env.state k = .unused ∨ env.state k = .busy

/-- What a turn does that does not end the loop: only an unused request is triggered. -/
def pollEvents : RequestState → List UploadEvent
  | .unused => [.sdoRequestState .unused, .sdoRequestRead, .nanosleep timeSleep]
  | answer => [.sdoRequestState answer, .nanosleep timeSleep]

/-- What is done while the first `n` answers are waited for. -/
def polled (env : SdoAnswers) (n : Nat) : List UploadEvent :=
  (List.range n).flatMap fun k => pollEvents (env.state k)

/-- The locals after `n` answers that do not end the loop. -/
def Upload.waiting (env : SdoAnswers) (start : List UploadEvent) (n : Nat) : Upload :=
  ⟨-1, none, n, start ++ polled env n⟩

section
variable {env : SdoAnswers} {n : Nat}

theorem polled_succ : polled env (n + 1) = polled env n ++ pollEvents (env.state n) := by
  rw [polled, List.range_succ, List.flatMap_append, List.flatMap_singleton]
  rfl

theorem turn_waiting (start : List UploadEvent)
    (hwait : env.state n = .unused ∨ env.state n = .busy) :
    getSdoParamTurn env (.waiting env start n) = .inl (.waiting env start (n + 1)) := by
  unfold Upload.waiting
  rw [polled_succ]
  rcases hwait with hwait | hwait
  · simp [getSdoParamTurn, readSdoData, Upload.emit, pollEvents, hwait]
  · simp [getSdoParamTurn, readSdoData, Upload.emit, pollEvents, hwait]

/-- The loop goes on as long as no answer ends it. -/
theorem loop_waiting (hwait : ∀ k < n, env.state k = .unused ∨ env.state k = .busy)
    (start : List UploadEvent) (fuel : Nat) :
    loop (getSdoParamTurn env) (fuel + n) (.waiting env start 0) =
      loop (getSdoParamTurn env) fuel (.waiting env start n) := by
  induction n generalizing fuel with
  | zero => rfl
  | succ n ih =>
    rw [← Nat.add_assoc, Nat.add_right_comm, ih fun k hk => hwait k (Nat.lt_succ_of_lt hk),
      Loop.loop_inl (turn_waiting start (hwait n (Nat.lt_succ_self n)))]

theorem loop_error (start : List UploadEvent) (h : Answered env n .error) :
    ∃ s, s.events = start ++ polled env n ++ [.sdoRequestState .error] ∧
      loop (getSdoParamTurn env) (1 + n) (.waiting env start 0) = some (-1, s) := by
  refine ⟨⟨-2, none, n + 1, start ++ polled env n ++ [.sdoRequestState .error]⟩, rfl, ?_⟩
  rw [loop_waiting h.before start, Loop.loop_inr]
  simp [getSdoParamTurn, readSdoData, Upload.emit, Upload.waiting, h.last]

theorem loop_success (start : List UploadEvent) (h : Answered env n .success) :
    ∃ s, s.ppData = some env.data ∧
      s.events = start ++ polled env n ++
        [.sdoRequestState .success, .sdoRequestData, .nanosleep timeSleep] ∧
      loop (getSdoParamTurn env) (2 + n) (.waiting env start 0) = some (0, s) := by
  refine ⟨⟨0, some env.data, n + 1, start ++ polled env n ++
    [.sdoRequestState .success, .sdoRequestData, .nanosleep timeSleep]⟩, rfl, rfl, ?_⟩
  have hturn : getSdoParamTurn env (.waiting env start n) = .inl ⟨0, some env.data, n + 1,
      start ++ polled env n ++
        [.sdoRequestState .success, .sdoRequestData, .nanosleep timeSleep]⟩ := by
    simp [getSdoParamTurn, readSdoData, Upload.emit, Upload.waiting, h.last]
  rw [loop_waiting h.before start, Loop.loop_inl hturn, Loop.loop_inr]
  rfl

theorem loop_never (start : List UploadEvent)
    (h : ∀ k, env.state k = .unused ∨ env.state k = .busy) (fuel : Nat) :
    loop (getSdoParamTurn env) fuel (.waiting env start 0) = none := by
  have hnone := loop_waiting (n := fuel) (fun k _ => h k) start 0
  rw [Nat.zero_add] at hnone
  exact hnone

end

def requested (index : UInt16) (subindex : UInt8) (size : Nat) : List UploadEvent :=
  [.createSdoRequest index subindex size, .sdoRequestTimeout 500]

def SdoAnswers.Ready (env : SdoAnswers) : Prop := env.created = true ∧ env.timeout = 0

section
variable {α : Type u} {ecRead : EcRead α} {env : SdoAnswers}

theorem getSdoParam_ready (h : env.Ready) (index : UInt16) (subindex : UInt8) (size fuel : Nat) :
    getSdoParam env index subindex size fuel =
      loop (getSdoParamTurn env) fuel (.waiting env (requested index subindex size) 0) := by
  obtain ⟨hcreated, htimeout⟩ := h
  simp [getSdoParam, hcreated, htimeout, Upload.initial, Upload.emit, Upload.waiting, requested,
    polled]

theorem getSdoParam_notReady (h : ¬ env.Ready) (index : UInt16) (subindex : UInt8)
    (size fuel : Nat) :
    ∃ s, getSdoParam env index subindex size fuel = some (-1, s) := by
  cases hcreated : env.created with
  | false => exact ⟨_, by rw [getSdoParam, hcreated]; rfl⟩
  | true =>
    have htimeout : env.timeout ≠ 0 := fun h0 => h ⟨hcreated, h0⟩
    refine ⟨(Upload.initial.emit (.createSdoRequest index subindex size)).emit
      (.sdoRequestTimeout 500), ?_⟩
    rw [getSdoParam, hcreated]
    exact if_pos htimeout

end

/-- Whatever the master answers: with a success before an error, 0 and the value that the memory
holds; with an error before a success, or without a request, -1 and the variable as it was; and no
result while neither comes. A reading is triggered for each unused answer and for nothing else. -/
theorem getSdoParamValue_outcome {α : Type u} (ecRead : EcRead α) (env : SdoAnswers)
    (index : UInt16) (subindex : UInt8) (pValue : α) :
    (env.Ready → ∀ n v, Answered env n .success → env.data = ecRead.word v →
      ∃ fuel, getSdoParamValue ecRead env index subindex pValue fuel =
        some (0, v, requested index subindex ecRead.size ++ polled env n ++
          [.sdoRequestState .success, .sdoRequestData, .nanosleep timeSleep])) ∧
    (env.Ready → ∀ n, Answered env n .error →
      ∃ fuel, getSdoParamValue ecRead env index subindex pValue fuel =
        some (-1, pValue, requested index subindex ecRead.size ++ polled env n ++
          [.sdoRequestState .error])) ∧
    (¬ env.Ready → ∀ fuel, ∃ events,
      getSdoParamValue ecRead env index subindex pValue fuel = some (-1, pValue, events)) ∧
    (env.Ready → (∀ k, env.state k = .unused ∨ env.state k = .busy) → ∀ fuel,
      getSdoParamValue ecRead env index subindex pValue fuel = none) := by
  have hne : ¬ (-1 : Int) = 0 := by decide
  refine ⟨?_, ?_, ?_, ?_⟩
  · intro hready n v hanswered hdata
    obtain ⟨s, hpData, hevents, hloop⟩ :=
      loop_success (requested index subindex ecRead.size) hanswered
    refine ⟨2 + n, ?_⟩
    rw [getSdoParamValue, getSdoParam_ready hready index subindex, hloop, Option.bind_some,
      if_pos rfl, hpData, Option.map_some, hevents, hdata, ecRead.read_word]
  · intro hready n hanswered
    obtain ⟨s, hevents, hloop⟩ :=
      loop_error (requested index subindex ecRead.size) hanswered
    refine ⟨1 + n, ?_⟩
    rw [getSdoParamValue, getSdoParam_ready hready index subindex, hloop, Option.bind_some,
      if_neg hne, hevents]
  · intro hnot fuel
    obtain ⟨s, hs⟩ := getSdoParam_notReady hnot index subindex
      ecRead.size fuel
    refine ⟨s.events, ?_⟩
    rw [getSdoParamValue, hs, Option.bind_some, if_neg hne]
  · intro hready hwait fuel
    rw [getSdoParamValue, getSdoParam_ready hready index subindex, loop_never _ hwait]
    rfl

/-- The request is unused, then busy and then successful, and the memory holds -2. -/
def minusTwo : SdoAnswers where
  created := true
  timeout := 0
  state
    | 0 => .unused
    | 1 => .busy
    | _ => .success
  data := [0xFE, 0xFF]

theorem getSdoParamS16_minusTwo : ∃ fuel,
    getSdoParamS16 .littleEndian minusTwo 0x2C04 3 0 fuel = some (0, -2,
      [.createSdoRequest 0x2C04 3 2, .sdoRequestTimeout 500, .sdoRequestState .unused,
        .sdoRequestRead, .nanosleep timeSleep, .sdoRequestState .busy, .nanosleep timeSleep,
        .sdoRequestState .success, .sdoRequestData, .nanosleep timeSleep]) := by
  have hanswered : Answered minusTwo 2 .success := by
    refine ⟨rfl, ?_⟩
    intro k hk
    match k with
    | 0 => exact Or.inl rfl
    | 1 => exact Or.inr rfl
  exact (getSdoParamValue_outcome EcMacros.littleEndian.s16 minusTwo 0x2C04 3 0).1 ⟨rfl, rfl⟩ 2
    (-2) hanswered (by decide)

end HexrotPxiCom.DriveTool
