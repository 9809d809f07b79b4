import Mathlib.Algebra.Group.Nat.Defs
import BacnetBridge.State
import BacnetBridge.Tags

/-! What `local_device.rs` takes from the BACnet crates: their data types, and
their encoders and decoders as one parameter. -/
namespace BacnetBridge

abbrev Octets := List UInt8

/-- How a task can die. -/
inductive Panic
  | indexOutOfBounds
  | unreachable
  | expect (message : String)
  deriving DecidableEq, Repr

/-- `bytes[i]`. -/
def index (bytes : Octets) (i : Nat) : Except Panic UInt8 :=
  match bytes[i]? with
  | some b => .ok b
  | none => .error .indexOutOfBounds

/-- `&bytes[start..stop]`. -/
def slice (bytes : Octets) (start stop : Nat) : Except Panic Octets :=
  if start ≤ stop ∧ stop ≤ bytes.length then .ok ((bytes.drop start).take (stop - start))
  else .error .indexOutOfBounds

theorem index_of_lt {bytes : Octets} {i : Nat} (h : i < bytes.length) :
    index bytes i = .ok bytes[i] := by
  simp [index, h]

theorem index_eq_ok_iff {bytes : Octets} {i : Nat} {b : UInt8} :
    index bytes i = .ok b ↔ bytes[i]? = some b := by
  unfold index
  cases bytes[i]? <;> simp

theorem slice_of_le {bytes : Octets} {start stop : Nat} (h : start ≤ stop)
    (h' : stop ≤ bytes.length) :
    slice bytes start stop = .ok ((bytes.drop start).take (stop - start)) := by
  simp [slice, h, h']

/-- A 32-bit float by its bit pattern. -/
structure F32 where
  bits : UInt32
  deriving DecidableEq, Repr

namespace F32

def zero : F32 := ⟨0⟩

def fromBeBytes (b₀ b₁ b₂ b₃ : UInt8) : F32 :=
  ⟨b₀.toUInt32 <<< 24 ||| b₁.toUInt32 <<< 16 ||| b₂.toUInt32 <<< 8 ||| b₃.toUInt32⟩

def toBeBytes (f : F32) : Octets :=
  [(f.bits >>> 24).toUInt8, (f.bits >>> 16).toUInt8, (f.bits >>> 8).toUInt8, f.bits.toUInt8]

end F32

def u16FromBeBytes (high low : UInt8) : UInt16 := high.toUInt16 <<< 8 ||| low.toUInt16

structure ObjectType where
  raw : UInt32
  deriving DecidableEq, Repr

namespace ObjectType

def analogOutput : ObjectType := ⟨1⟩
def analogValue : ObjectType := ⟨2⟩
def device : ObjectType := ⟨8⟩
def lightingOutput : ObjectType := ⟨54⟩

end ObjectType

structure ObjectIdentifier where
  objectType : ObjectType
  inst : UInt32
  deriving DecidableEq, Repr

structure NpduAddress where
  network : UInt16
  macAddress : Octets
  deriving DecidableEq, Repr

inductive NetworkPriority
  | normal
  deriving DecidableEq, Repr

structure Npdu where
  isNetworkMessage : Bool
  expectingReply : Bool
  priority : NetworkPriority
  source : Option NpduAddress
  destination : Option NpduAddress
  hopCount : UInt8
  payload : Octets
  deriving DecidableEq, Repr

inductive ConfirmedServiceChoice
  | readProperty
  | writeProperty
  deriving DecidableEq, Repr

inductive UnconfirmedServiceChoice
  | iAm
  deriving DecidableEq, Repr

inductive ErrorClass
  | object
  | property
  deriving DecidableEq, Repr

inductive ErrorCode
  | unknownObject
  | unknownProperty
  | writeAccessDenied
  deriving DecidableEq, Repr

structure ErrorPdu where
  invokeId : UInt8
  serviceChoice : ConfirmedServiceChoice
  errorClass : ErrorClass
  errorCode : ErrorCode
  errorData : Octets
  deriving DecidableEq, Repr

inductive Apdu
  | unconfirmedRequest (serviceChoice : UnconfirmedServiceChoice) (serviceRequest : Octets)
  | error (pdu : ErrorPdu)
  deriving DecidableEq, Repr

/-- The functions of the BACnet crates. A result that is an error is `none`; an
encoder of primitives appends the octets given here. -/
structure Codec where
  /-- `ObjectIdentifier::new`. -/
  oidNew : ObjectType → UInt32 → Option ObjectIdentifier
  /-- `ObjectIdentifier::decode`. -/
  oidDecode : Octets → Option ObjectIdentifier
  encodeApdu : Apdu → Option Octets
  encodeNpdu : Npdu → Option Octets
  encodeCtxObjectId : UInt8 → ObjectIdentifier → Octets
  encodeCtxUnsigned : UInt8 → UInt64 → Octets
  encodeCtxEnumerated : UInt8 → UInt32 → Octets
  encodeAppObjectId : ObjectIdentifier → Octets
  encodeAppEnumerated : UInt32 → Octets
  encodeAppBoolean : Bool → Octets
  encodeAppReal : F32 → Octets
  encodeAppCharacterString : String → Octets
  encodeAppBitString : UInt8 → Octets → Octets
  decodeTag : Octets → Nat → Option (Tags.Tag × Nat)
  /-- `{:?}` of an `ObjectType`. -/
  objectTypeDebug : ObjectType → String

/-- The headers of the standard are decoded as it says, those of values up to a
mebibyte. Nothing is said of an application Boolean, whose value is in its header, nor
of octets that are no header. -/
def Codec.DecodesTags (C : Codec) : Prop :=
  ∀ data offset found, Tags.decode data offset = some found → found.1.length ≤ 2 ^ 20 →
    found.1.tagClass = .context ∨ found.1.number ≠ 1 → C.decodeTag data offset = some found

/-- An Error PDU starts with its PDU type, 5, and four zero bits. -/
def Codec.MarksErrors (C : Codec) : Prop :=
  ∀ pdu octets, C.encodeApdu (.error pdu) = some octets → octets.head? = some 0x50

/-! ## The standard's encodings -/

namespace Standard

/-- Big-endian octets of a number. -/
def octets (n : Nat) : Nat → Octets
  | 0 => []
  | count + 1 => octets (n / 256) count ++ [UInt8.ofNat n]

/-- The least number of octets, at least one, that hold the number. -/
def minimalOctets (n : Nat) : Octets :=
  if n < 2 ^ 8 then octets n 1
  else if n < 2 ^ 16 then octets n 2
  else if n < 2 ^ 24 then octets n 3
  else if n < 2 ^ 32 then octets n 4
  else if n < 2 ^ 40 then octets n 5
  else if n < 2 ^ 48 then octets n 6
  else if n < 2 ^ 56 then octets n 7
  else octets n 8

/-- The initial octet of a header; numbers from 15 on have a second one. -/
def header (number classBit lvt : Nat) : Octets :=
  if number < 15 then [UInt8.ofNat (number * 16 + classBit + lvt)]
  else [UInt8.ofNat (15 * 16 + classBit + lvt), UInt8.ofNat number]

/-- A primitive value under its tag; `classBit` is 8 for context tags. -/
def tagged (number : Nat) (classBit : Nat) (value : Octets) : Octets :=
  let length := value.length
  if length < 5 then header number classBit length ++ value
  else if length < 254 then header number classBit 5 ++ [UInt8.ofNat length] ++ value
  else if length < 2 ^ 16 then header number classBit 5 ++ [254] ++ octets length 2 ++ value
  else header number classBit 5 ++ [255] ++ octets length 4 ++ value

def oidOctets (oid : ObjectIdentifier) : Octets :=
  octets (oid.objectType.raw.toNat * 2 ^ 22 + oid.inst.toNat) 4

def serviceOctet : ConfirmedServiceChoice → UInt8
  | .readProperty => 12
  | .writeProperty => 15

def errorClassNumber : ErrorClass → Nat
  | .object => 1
  | .property => 2

def errorCodeNumber : ErrorCode → Nat
  | .unknownObject => 31
  | .unknownProperty => 32
  | .writeAccessDenied => 40

def encodeApdu : Apdu → Octets
  | .unconfirmedRequest .iAm request => [0x10, 0] ++ request
  | .error e => [0x50, e.invokeId, serviceOctet e.serviceChoice] ++
      tagged 9 0 (minimalOctets (errorClassNumber e.errorClass)) ++
      tagged 9 0 (minimalOctets (errorCodeNumber e.errorCode)) ++ e.errorData

def address (a : NpduAddress) : Octets :=
  octets a.network.toNat 2 ++ [UInt8.ofNat a.macAddress.length] ++ a.macAddress

/-- Version, control octet, addresses, hop count and payload (clause 6.2). -/
def encodeNpdu (n : Npdu) : Octets :=
  let control : Nat := (if n.isNetworkMessage then 128 else 0) +
    (if n.destination.isSome then 32 else 0) + (if n.source.isSome then 8 else 0) +
    (if n.expectingReply then 4 else 0)
  [1, UInt8.ofNat control] ++ (n.destination.map address).getD [] ++
    (n.source.map address).getD [] ++ (if n.destination.isSome then [n.hopCount] else []) ++
    n.payload

end Standard

/-- The codec of the standard, with every value in its shortest encoding. -/
def Codec.standard : Codec where
  oidNew objectType inst := if inst ≤ 4194303 then some ⟨objectType, inst⟩ else none
  oidDecode bytes := do
    let n ← Tags.unsigned bytes 0 4
    return ⟨⟨UInt32.ofNat (n / 2 ^ 22)⟩, UInt32.ofNat (n % 2 ^ 22)⟩
  encodeApdu a := some (Standard.encodeApdu a)
  encodeNpdu n := some (Standard.encodeNpdu n)
  encodeCtxObjectId n oid := Standard.tagged n.toNat 8 (Standard.oidOctets oid)
  encodeCtxUnsigned n v := Standard.tagged n.toNat 8 (Standard.minimalOctets v.toNat)
  encodeCtxEnumerated n v := Standard.tagged n.toNat 8 (Standard.minimalOctets v.toNat)
  encodeAppObjectId oid := Standard.tagged 12 0 (Standard.oidOctets oid)
  encodeAppEnumerated v := Standard.tagged 9 0 (Standard.minimalOctets v.toNat)
  encodeAppBoolean v := [if v then 0x11 else 0x10]
  encodeAppReal v := Standard.tagged 4 0 v.toBeBytes
  encodeAppCharacterString s := Standard.tagged 7 0 (0 :: s.toUTF8.toList)
  encodeAppBitString unused data := Standard.tagged 8 0 (unused :: data)
  decodeTag := Tags.decode
  objectTypeDebug t := "ObjectType(" ++ toString t.raw.toNat ++ ")"

theorem Codec.standard_decodesTags : Codec.standard.DecodesTags := by
  intro data offset found h _ _
  exact h

theorem Codec.standard_marksErrors : Codec.standard.MarksErrors := by
  intro pdu octets h
  obtain rfl := Option.some.inj h
  rfl

end BacnetBridge
