import Mathlib

/-!
# Types of third-party libraries

UUIDs, calendar timestamps and RPC statuses as the services use them. What the libraries compute
on them (parsing, calendar arithmetic, texts) is a parameter, one class a library.
-/

namespace InfoVulcan

/-! ## UUIDs -/

/-- A UUID. -/
structure Uuid where
  bits : BitVec 128
  deriving DecidableEq, Repr

namespace Uuid

/-- The hexadecimal digit of a number below sixteen. -/
def hexDigit (n : Nat) : Char :=
  if n < 10 then Char.ofNat (48 + n) else Char.ofNat (87 + n)

/-- The 32 lower-case hexadecimal digits, most significant first. -/
def hexDigits (u : Uuid) : List Char :=
  (List.range 32).map fun i => hexDigit ((u.bits.toNat / 16 ^ (31 - i)) % 16)

/-- The hyphenated text form. -/
instance : ToString Uuid where
  toString u :=
    let d := u.hexDigits
    String.ofList <|
      d.take 8 ++ '-' :: (d.drop 8).take 4 ++ '-' :: (d.drop 12).take 4 ++
        '-' :: (d.drop 16).take 4 ++ '-' :: d.drop 20

end Uuid

/-- The reader of UUID texts. -/
class UuidParser where
  parseStr : String → Option Uuid

/-! ## Timestamps -/

/-- A protobuf timestamp. -/
structure Timestamp where
  seconds : Int64
  nanos : Int32
  deriving DecidableEq

/-- The calendar library: its timestamps, the conversions from and to unix time, the first of
which fails out of its range, and the default timestamp. -/
class Chrono where
  DateTime : Type
  fromTimestamp : Int64 → UInt32 → Option DateTime
  timestamp : DateTime → Int64
  toProto : DateTime → Timestamp
  default : DateTime

/-- What is documented of the calendar library: a time that is made from a timestamp with less than
a second of nanoseconds is sent as that timestamp, every time that is made is sent with less than a
second of nanoseconds, and the default time is the beginning of unix time. -/
class LawfulChrono [Chrono] : Prop where
  toProto_fromTimestamp : ∀ {seconds : Int64} {nanos : UInt32} {time : Chrono.DateTime},
    Chrono.fromTimestamp seconds nanos = some time → nanos.toNat < 10 ^ 9 →
      Chrono.toProto time = ⟨seconds, Int32.ofNat nanos.toNat⟩
  nanos_toProto : ∀ {seconds : Int64} {nanos : UInt32} {time : Chrono.DateTime},
    Chrono.fromTimestamp seconds nanos = some time →
      0 ≤ (Chrono.toProto time).nanos.toInt ∧ (Chrono.toProto time).nanos.toInt < 10 ^ 9
  fromTimestamp_zero : Chrono.fromTimestamp 0 0 = some Chrono.default

/-! ## Statuses -/

/-- The code of an RPC status. -/
inductive Code where
  | invalidArgument
  | notFound
  | permissionDenied
  | failedPrecondition
  | internal
  | unavailable
  deriving DecidableEq, Repr

/-- The status an RPC fails with. -/
structure Status where
  code : Code
  message : String
  deriving DecidableEq, Repr

namespace Status

def invalidArgument (message : String) : Status := ⟨.invalidArgument, message⟩
def notFound (message : String) : Status := ⟨.notFound, message⟩
def permissionDenied (message : String) : Status := ⟨.permissionDenied, message⟩
def failedPrecondition (message : String) : Status := ⟨.failedPrecondition, message⟩
def internal (message : String) : Status := ⟨.internal, message⟩
def unavailable (message : String) : Status := ⟨.unavailable, message⟩

end Status

/-- The texts of failures that other libraries report: of a status, and of a Raft write whose
state machine has failed. -/
class FailureText where
  status : Status → String
  raftWrite : String → String

/-! ## Computations that may panic -/

/-- Why a computation stopped short: it returned an error, or it panicked. -/
inductive Stop (ε : Type) where
  | error (e : ε)
  | panicked
  deriving DecidableEq, Repr

/-- Changes the error of a computation that may panic. -/
def Stop.map {ε δ : Type} (f : ε → δ) : Stop ε → Stop δ
  | .error e => .error (f e)
  | .panicked => .panicked

end InfoVulcan
