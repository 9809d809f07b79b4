import BacnetBridge.ReadAck
import BacnetBridge.WriteRequest

/-! Well-formed ReadProperty and WriteProperty requests, and what the device's
parsers find in them. -/
namespace BacnetBridge

/-- What follows the property in a request: nothing, or the value to write,
whatever octets it has, and a priority. -/
inductive PropertyService
  | readProperty
  | writeProperty (value : Octets) (priority : Option Priority)

/-- An unsegmented request about a property of an object. -/
structure PropertyRequest where
  segmentedResponseAccepted : Bool
  maxResponse : UInt8
  invokeId : UInt8
  service : PropertyService
  object : ObjectIdentifier
  valid : object.Valid
  propId : Nat
  propId_le : propId ≤ 4194303
  arrayIndex : Option UInt32

namespace PropertyService

def choice : PropertyService → ConfirmedServiceChoice
  | .readProperty => .readProperty
  | .writeProperty .. => .writeProperty

def octets : PropertyService → Octets
  | .readProperty => []
  | .writeProperty value priority =>
    [0x3E] ++ value ++ [0x3F] ++ (priority.map fun p => Standard.tagged 4 8 [p.val]).getD []

end PropertyService

namespace PropertyRequest

/-- What follows the property identifier: context 2 for an index, then the value. -/
def rest (r : PropertyRequest) : Octets :=
  (r.arrayIndex.map fun i => Standard.tagged 2 8 (Standard.minimalOctets i.toNat)).getD [] ++
    r.service.octets

/-- The fixed header, then context 0 and context 1. -/
def apdu (r : PropertyRequest) : Octets :=
  [if r.segmentedResponseAccepted then 0x02 else 0x00, r.maxResponse, r.invokeId,
    Standard.serviceOctet r.service.choice] ++
    Standard.tagged 0 8 (Standard.oidOctets r.object) ++
    Standard.tagged 1 8 (Standard.minimalOctets r.propId) ++ r.rest

def received (r : PropertyRequest) (sourceMac : Octets) (sourceNetwork : Option NpduAddress) :
    ReceivedApdu :=
  ⟨r.apdu, sourceMac, sourceNetwork⟩

theorem apdu_layout (r : PropertyRequest) :
    ∃ first o₁ o₂ o₃ o₄ : UInt8, first >>> 4 = 0 ∧ first &&& 0x08 = 0 ∧
      Standard.oidOctets r.object = [o₁, o₂, o₃, o₄] ∧
      r.apdu = [first, r.maxResponse, r.invokeId, Standard.serviceOctet r.service.choice, 0x0C,
        o₁, o₂, o₃, o₄] ++ (Standard.tagged 1 8 (Standard.minimalOctets r.propId) ++ r.rest) := by
  obtain ⟨o₁, o₂, o₃, o₄, hoid⟩ :
      ∃ o₁ o₂ o₃ o₄, Standard.oidOctets r.object = [o₁, o₂, o₃, o₄] := ⟨_, _, _, _, rfl⟩
  refine ⟨if r.segmentedResponseAccepted then 0x02 else 0x00, o₁, o₂, o₃, o₄, ?_, ?_, hoid, ?_⟩
  · split <;> rfl
  · split <;> rfl
  · simp only [apdu, hoid, List.append_assoc]
    rfl

/-- Context 1 in the one, two or three octets that the identifier needs. -/
theorem property_layout (r : PropertyRequest) :
    (r.propId < 256 ∧ Standard.tagged 1 8 (Standard.minimalOctets r.propId) =
        [0x19, UInt8.ofNat r.propId]) ∨
      (256 ≤ r.propId ∧ r.propId < 65536 ∧
        Standard.tagged 1 8 (Standard.minimalOctets r.propId) =
          [0x1A, UInt8.ofNat (r.propId / 256), UInt8.ofNat r.propId]) ∨
      (65536 ≤ r.propId ∧ Standard.tagged 1 8 (Standard.minimalOctets r.propId) =
        [0x1B, UInt8.ofNat (r.propId / 256 / 256), UInt8.ofNat (r.propId / 256),
          UInt8.ofNat r.propId]) := by
  have hle := r.propId_le
  by_cases hone : r.propId < 256
  · refine .inl ⟨hone, ?_⟩
    simp only [Standard.minimalOctets, Nat.reducePow, hone, if_true]
    rfl
  by_cases htwo : r.propId < 65536
  · refine .inr (.inl ⟨by omega, htwo, ?_⟩)
    simp only [Standard.minimalOctets, Nat.reducePow, hone, htwo, if_true, if_false]
    rfl
  · refine .inr (.inr ⟨by omega, ?_⟩)
    have hthree : r.propId < 16777216 := by omega
    simp only [Standard.minimalOctets, Nat.reducePow, hone, htwo, hthree, if_true, if_false]
    rfl

theorem le_apdu_length (r : PropertyRequest) : 11 ≤ r.apdu.length := by
  obtain ⟨_, _, _, _, _, -, -, -, h⟩ := r.apdu_layout
  rw [h]
  rcases r.property_layout with ⟨-, hprop⟩ | ⟨-, -, hprop⟩ | ⟨-, hprop⟩ <;>
    rw [hprop] <;> simp

theorem invokeId_apdu (r : PropertyRequest) : r.apdu[2]? = some r.invokeId := by
  obtain ⟨_, _, _, _, _, -, -, -, h⟩ := r.apdu_layout
  rw [h]
  rfl

theorem service_apdu (r : PropertyRequest) :
    pduTypeAndService r.apdu = .ok (0x00, Standard.serviceOctet r.service.choice) := by
  have hlen := r.le_apdu_length
  obtain ⟨first, _, _, _, _, htype, hsegmented, -, h⟩ := r.apdu_layout
  have hfirst : index r.apdu 0 = .ok first := by
    rw [h]
    rfl
  have hservice : index r.apdu 3 = .ok (Standard.serviceOctet r.service.choice) := by
    rw [h]
    rfl
  have hlong : r.apdu.length > 3 := by omega
  simp only [pduTypeAndService, hfirst, hservice, bind, Except.bind, htype, hsegmented, hlong,
    ne_eq, not_true, and_false, and_true, if_true]
  rfl

theorem parseOid_apdu {C : Codec} (hC : C.EncodesParameters) (r : PropertyRequest) :
    parseOidFromRequest C r.apdu = .ok (some r.object) := by
  have hlen := r.le_apdu_length
  obtain ⟨_, o₁, o₂, o₃, o₄, -, -, hoid, h⟩ := r.apdu_layout
  have hctx0 : index r.apdu 4 = .ok 0x0C := by
    rw [h]
    rfl
  have hoctets : slice r.apdu 5 9 = .ok [o₁, o₂, o₃, o₄] := by
    rw [slice_of_le (by omega) (by omega), h]
    rfl
  have hdecode := hC.decode_oidOctets r.valid
  rw [hoid] at hdecode
  have hlong : ¬ r.apdu.length < 9 := by omega
  simp only [parseOidFromRequest, hlong, if_false, hctx0, hoctets, bind, Except.bind, ne_eq,
    not_true, hdecode]
  rfl

/-- Both parsers stop at three octets, and find an identifier in one or two. -/
theorem property_octets (r : PropertyRequest) :
    (r.propId < 65536 ∧ ((∃ p, index r.apdu 9 = .ok 0x19 ∧ index r.apdu 10 = .ok p) ∨
        ∃ high low, 12 ≤ r.apdu.length ∧ index r.apdu 9 = .ok 0x1A ∧
          index r.apdu 10 = .ok high ∧ index r.apdu 11 = .ok low)) ∨
      (65536 ≤ r.propId ∧ 13 ≤ r.apdu.length ∧ index r.apdu 9 = .ok 0x1B) := by
  obtain ⟨_, _, _, _, _, -, -, -, h⟩ := r.apdu_layout
  rcases r.property_layout with ⟨hlt, hprop⟩ | ⟨-, hlt, hprop⟩ | ⟨hle, hprop⟩ <;> rw [hprop] at h
  · refine .inl ⟨by omega, .inl ⟨UInt8.ofNat r.propId, ?_, ?_⟩⟩ <;> rw [h] <;> rfl
  · refine .inl ⟨hlt, .inr ⟨UInt8.ofNat (r.propId / 256), UInt8.ofNat r.propId, ?_, ?_, ?_, ?_⟩⟩
    · rw [h]
      simp
    all_goals rw [h]; rfl
  · refine .inr ⟨hle, ?_, ?_⟩
    · rw [h]
      simp
    · rw [h]
      rfl

theorem readPropId_apdu (r : PropertyRequest) :
    (r.propId < 65536 ∧ ∃ propId, readPropId r.apdu = .ok (some propId)) ∨
      (65536 ≤ r.propId ∧ readPropId r.apdu = .ok none) := by
  have hlen := r.le_apdu_length
  have hlong : ¬ r.apdu.length ≤ 10 := by omega
  rcases r.property_octets with
    ⟨hlt, ⟨p, htag, hp⟩ | ⟨high, low, -, htag, hhigh, hlow⟩⟩ | ⟨hle, -, htag⟩
  · refine .inl ⟨hlt, p.toUInt16, ?_⟩
    simp only [readPropId, htag, hp, bind, Except.bind, hlong]
    rfl
  · refine .inl ⟨hlt, u16FromBeBytes high low, ?_⟩
    simp only [readPropId, htag, hhigh, hlow, bind, Except.bind, hlong]
    rfl
  · refine .inr ⟨hle, ?_⟩
    simp only [readPropId, htag, bind, Except.bind, hlong]
    rfl

theorem writePropId_apdu (r : PropertyRequest) (h : 14 ≤ r.apdu.length) :
    (r.propId < 65536 ∧ ∃ found, writePropId r.apdu = .ok (some found)) ∨
      (65536 ≤ r.propId ∧ writePropId r.apdu = .ok none) := by
  have hroom (n : UInt8) (hn : n.toNat ≤ 3) : ¬ r.apdu.length ≤ 10 + n.toNat := by omega
  rcases r.property_octets with
    ⟨hlt, ⟨p, htag, hp⟩ | ⟨high, low, -, htag, hhigh, hlow⟩⟩ | ⟨hle, -, htag⟩
  · refine .inl ⟨hlt, (p.toUInt16, 11), ?_⟩
    simp only [writePropId, htag, hp, bind, Except.bind,
      hroom (0x19 &&& 0x07) (by decide)]
    rfl
  · refine .inl ⟨hlt, (u16FromBeBytes high low, 12), ?_⟩
    simp only [writePropId, htag, hhigh, hlow, bind, Except.bind,
      hroom (0x1A &&& 0x07) (by decide)]
    rfl
  · refine .inr ⟨hle, ?_⟩
    simp only [writePropId, htag, bind, Except.bind,
      hroom (0x1B &&& 0x07) (by decide)]
    rfl

end PropertyRequest

end BacnetBridge
