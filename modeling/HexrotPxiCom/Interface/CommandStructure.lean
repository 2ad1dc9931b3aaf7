import HexrotPxiCom.Lib.Packed

/-!
# The structures of the TCP/IP protocol

`commandStructure.h`: the structures are packed, and a `double` is its 64 bits.
-/

namespace HexrotPxiCom

set_option autoImplicit false

/-- `commandStreamStructure_t`. -/
structure CommandStream where
  commander : UInt32
  counter : UInt32
  cmd : UInt32
  param1 : UInt64
  param2 : UInt64
  param3 : UInt64
  param4 : UInt64
  param5 : UInt64
  param6 : UInt64
  deriving Repr, DecidableEq, Inhabited

/-- `sizeof(commandStreamStructure_t)`. -/
def sizeofCommandStream : Nat := 3 * 4 + 6 * 8

inductive Commander where
  | gui
  | csc
  | self
  deriving Repr, DecidableEq

def Commander.toUInt32 : Commander → UInt32
  | .gui => 1
  | .csc => 2
  | .self => 3

inductive CmdStatus where
  | ok
  | notOK
  deriving Repr, DecidableEq

def CmdStatus.toUInt32 : CmdStatus → UInt32
  | .ok => 1
  | .notOK => 2

inductive FrameId where
  | cmdStatus
  | tlm
  | config
  deriving Repr, DecidableEq

def FrameId.toUInt32 : FrameId → UInt32
  | .cmdStatus => 1
  | .tlm => 2
  | .config => 3

def lengthCmdStatusReason : Nat := 50

/-- `headerStructure_t`. -/
structure Header where
  frameId : UInt32
  counter : UInt32
  tvSec : Int64
  tvNsec : Int64
  deriving Repr, DecidableEq, Inhabited

/-- `commandStatusStructure_t`. -/
structure CommandStatus where
  header : Header
  cmdStatus : UInt32
  duration : UInt64
  reason : Vector UInt8 lengthCmdStatusReason
  deriving Repr, DecidableEq, Inhabited

namespace CommandStream

/-- The widths of the fields in bytes. -/
def widths : List Nat := [4, 4, 4, 8, 8, 8, 8, 8, 8]

def fields (c : CommandStream) : List Nat :=
  [c.commander.toNat, c.counter.toNat, c.cmd.toNat, c.param1.toNat, c.param2.toNat,
    c.param3.toNat, c.param4.toNat, c.param5.toNat, c.param6.toNat]

def ofFields : List Nat → CommandStream
  | [commander, counter, cmd, p1, p2, p3, p4, p5, p6] =>
    ⟨.ofNat commander, .ofNat counter, .ofNat cmd, .ofNat p1, .ofNat p2, .ofNat p3, .ofNat p4,
      .ofNat p5, .ofNat p6⟩
  | _ => default

/-- The structure as it lies in memory and on the wire. -/
def toBytes (c : CommandStream) : List UInt8 := Packed.pack widths c.fields

def ofBytes (bs : List UInt8) : CommandStream := ofFields (Packed.unpack widths bs)

theorem fields_fit (c : CommandStream) : Packed.Fits widths c.fields := by
  have h32 (x : UInt32) : x.toNat < 256 ^ 4 := x.toNat_lt
  have h64 (x : UInt64) : x.toNat < 256 ^ 8 := x.toNat_lt
  exact .cons (h32 _) (.cons (h32 _) (.cons (h32 _) (.cons (h64 _) (.cons (h64 _) (.cons (h64 _)
    (.cons (h64 _) (.cons (h64 _) (.cons (h64 _) .nil))))))))

theorem ofFields_fields (c : CommandStream) : ofFields c.fields = c := by
  simp [ofFields, fields]

theorem fields_ofFields {ns : List Nat} (h : Packed.Fits widths ns) :
    (ofFields ns).fields = ns := by
  have h32 {n : Nat} (hn : n < 256 ^ 4) : (UInt32.ofNat n).toNat = n :=
    UInt32.toNat_ofNat_of_lt' hn
  have h64 {n : Nat} (hn : n < 256 ^ 8) : (UInt64.ofNat n).toNat = n :=
    UInt64.toNat_ofNat_of_lt' hn
  have hlen : ns.length = 9 := h.length_eq.symm
  match ns, hlen, h with
  | [_, _, _, _, _, _, _, _, _], _,
    .cons h1 (.cons h2 (.cons h3 (.cons h4 (.cons h5 (.cons h6 (.cons h7 (.cons h8
      (.cons h9 .nil)))))))) =>
    simp only [ofFields, fields]
    rw [h32 h1, h32 h2, h32 h3, h64 h4, h64 h5, h64 h6, h64 h7, h64 h8, h64 h9]

theorem length_toBytes (c : CommandStream) : c.toBytes.length = sizeofCommandStream :=
  Packed.length_pack c.fields_fit

theorem ofBytes_toBytes (c : CommandStream) : ofBytes c.toBytes = c := by
  rw [ofBytes, toBytes, Packed.unpack_pack c.fields_fit, ofFields_fields]

theorem toBytes_ofBytes {bs : List UInt8} (h : bs.length = sizeofCommandStream) :
    (ofBytes bs).toBytes = bs := by
  have hsum : bs.length = widths.sum := h
  rw [ofBytes, toBytes, fields_ofFields (Packed.unpack_fits hsum), Packed.pack_unpack hsum]

end CommandStream

namespace CommandStatus

/-- The widths of the fields before the reason. -/
def widths : List Nat := [4, 4, 8, 8, 4, 8]

def fields (c : CommandStatus) : List Nat :=
  [c.header.frameId.toNat, c.header.counter.toNat, c.header.tvSec.toUInt64.toNat,
    c.header.tvNsec.toUInt64.toNat, c.cmdStatus.toNat, c.duration.toNat]

/-- The structure as it lies in memory and on the wire. -/
def toBytes (c : CommandStatus) : List UInt8 := Packed.pack widths c.fields ++ c.reason.toList

theorem fields_fit (c : CommandStatus) : Packed.Fits widths c.fields := by
  have h32 (x : UInt32) : x.toNat < 256 ^ 4 := x.toNat_lt
  have h64 (x : UInt64) : x.toNat < 256 ^ 8 := x.toNat_lt
  exact .cons (h32 _) (.cons (h32 _) (.cons (h64 _) (.cons (h64 _) (.cons (h32 _)
    (.cons (h64 _) .nil)))))

theorem fields_inj {a b : CommandStatus} (h : a.fields = b.fields) (hreason : a.reason = b.reason) :
    a = b := by
  obtain ⟨⟨frameId, counter, ⟨tvSec⟩, ⟨tvNsec⟩⟩, cmdStatus, duration, reason⟩ := a
  obtain ⟨⟨frameId', counter', ⟨tvSec'⟩, ⟨tvNsec'⟩⟩, cmdStatus', duration', reason'⟩ := b
  simp only [fields, List.cons.injEq, UInt32.toNat_inj, UInt64.toNat_inj] at h hreason
  obtain ⟨rfl, rfl, rfl, rfl, rfl, rfl, -⟩ := h
  rw [hreason]

/-- No two different structures have the same bytes. -/
theorem toBytes_inj {a b : CommandStatus} : a.toBytes = b.toBytes ↔ a = b := by
  constructor
  · intro h
    have hlength : (Packed.pack widths a.fields).length = (Packed.pack widths b.fields).length := by
      rw [Packed.length_pack a.fields_fit, Packed.length_pack b.fields_fit]
    obtain ⟨hpack, hreason⟩ := List.append_inj h hlength
    have hfields := congrArg (Packed.unpack widths) hpack
    rw [Packed.unpack_pack a.fields_fit, Packed.unpack_pack b.fields_fit] at hfields
    exact fields_inj hfields (Vector.toList_inj.mp hreason)
  · rintro rfl
    rfl

end CommandStatus

end HexrotPxiCom
