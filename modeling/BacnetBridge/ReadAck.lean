import BacnetBridge.LocalDevice
import BacnetBridge.Primitives

/-! Object and property identifiers as parameters of requests and answers, and
the ReadProperty-ACK read back from its octets. -/
namespace BacnetBridge

/-! ## Numbers and identifiers -/

namespace ObjectIdentifier

/-- Ten bits of type and 22 of instance. -/
def Valid (oid : ObjectIdentifier) : Prop :=
  oid.objectType.raw.toNat < 2 ^ 10 ∧ oid.inst.toNat < 2 ^ 22

end ObjectIdentifier

/-- Object identifiers and context parameters are encoded as the standard says:
`ObjectIdentifier::new` rejects exactly the instances that do not fit, four octets
decode to ten bits of type and 22 of instance, and under a tag number without an
octet of its own a valid identifier and a number have their shortest encoding. -/
structure Codec.EncodesParameters (C : Codec) : Prop where
  oidNew : ∀ objectType inst, objectType.raw.toNat < 2 ^ 10 →
    C.oidNew objectType inst = if inst ≤ 4194303 then some ⟨objectType, inst⟩ else none
  oidDecode : ∀ octets, octets.length = 4 → C.oidDecode octets = Codec.standard.oidDecode octets
  encodeCtxObjectId : ∀ tag oid, tag < 15 → oid.Valid →
    C.encodeCtxObjectId tag oid = Standard.tagged tag.toNat 8 (Standard.oidOctets oid)
  encodeCtxUnsigned : ∀ tag n, tag < 15 →
    C.encodeCtxUnsigned tag n = Standard.tagged tag.toNat 8 (Standard.minimalOctets n.toNat)

theorem Codec.standard_encodesParameters : Codec.standard.EncodesParameters where
  oidNew _ _ _ := rfl
  oidDecode _ _ := rfl
  encodeCtxObjectId _ _ _ _ := rfl
  encodeCtxUnsigned _ _ _ := rfl

theorem lt_of_le_max {inst : UInt32} (h : inst ≤ 4194303) : inst.toNat < 2 ^ 22 := by
  rw [UInt32.le_iff_toNat_le] at h
  simp only [UInt32.reduceToNat] at h
  omega

namespace Codec.EncodesParameters

variable {C : Codec}

theorem oidNew_eq_some (hC : C.EncodesParameters) {objectType : ObjectType} {inst : UInt32}
    {oid : ObjectIdentifier} (htype : objectType.raw.toNat < 2 ^ 10)
    (h : C.oidNew objectType inst = some oid) : oid = ⟨objectType, inst⟩ ∧ oid.Valid := by
  rw [hC.oidNew _ _ htype] at h
  split at h
  · rename_i hle
    obtain rfl := Option.some.inj h
    exact ⟨rfl, htype, lt_of_le_max hle⟩
  · cases h

theorem decode_oidOctets (hC : C.EncodesParameters) {oid : ObjectIdentifier} (h : oid.Valid) :
    C.oidDecode (Standard.oidOctets oid) = some oid := by
  obtain ⟨⟨raw⟩, inst⟩ := oid
  obtain ⟨htype, hinst⟩ := h
  simp only at htype hinst
  have hread := Standard.unsigned_octets (raw.toNat * 2 ^ 22 + inst.toNat) 4 []
  rw [List.append_nil, Nat.mod_eq_of_lt (by omega)] at hread
  have hraw : (raw.toNat * 2 ^ 22 + inst.toNat) / 2 ^ 22 = raw.toNat := by omega
  have hrest : (raw.toNat * 2 ^ 22 + inst.toNat) % 2 ^ 22 = inst.toNat := by omega
  rw [hC.oidDecode _ (Standard.length_oidOctets _)]
  simp only [Codec.standard, Standard.oidOctets, hread, Option.bind_eq_bind, Option.bind_some, hraw,
    hrest, UInt32.ofNat_toNat]
  rfl

/-- Whatever four octets decode to is a valid identifier. -/
theorem valid_of_decode (hC : C.EncodesParameters) {octets : Octets} {oid : ObjectIdentifier}
    (hlength : octets.length = 4) (h : C.oidDecode octets = some oid) : oid.Valid := by
  rw [hC.oidDecode _ hlength] at h
  obtain ⟨n, hn, hoid⟩ := Option.bind_eq_some_iff.mp h
  obtain rfl := Option.some.inj hoid
  have hlt := Tags.unsigned_lt hn
  have htype : n / 2 ^ 22 < 2 ^ 10 := by omega
  have hinst : n % 2 ^ 22 < 2 ^ 22 := Nat.mod_lt _ (by decide)
  have hsize : UInt32.size = 2 ^ 32 := rfl
  constructor
  · rw [UInt32.toNat_ofNat_of_lt' (by omega)]
    exact htype
  · rw [UInt32.toNat_ofNat_of_lt' (by omega)]
    exact hinst

end Codec.EncodesParameters

/-! ## Parameters -/

/-- The object identifier under context tag 0 at `start`. -/
def contextOid (C : Codec) (octets : Octets) (start : Nat) : Option ObjectIdentifier :=
  if octets[start]? = some 0x0C ∧ start + 5 ≤ octets.length then
    C.oidDecode ((octets.drop (start + 1)).take 4)
  else none

/-- The property identifier under context tag 1 at `start`, in one to four
octets, and the offset after it. -/
def contextPropId (octets : Octets) (start : Nat) : Option (Nat × Nat) := do
  let tag ← octets[start]?
  let length := (tag &&& 7).toNat
  if tag >>> 3 = 3 ∧ 1 ≤ length ∧ length ≤ 4 then
    let propId ← Tags.unsigned octets (start + 1) length
    return (propId, start + 1 + length)
  else none

/-- A ReadProperty-ACK. -/
structure ReadAck where
  invokeId : UInt8
  object : ObjectIdentifier
  propId : Nat
  value : Octets
  deriving DecidableEq, Repr

/-- Read from its octets: a ComplexACK of service 12, context 0, context 1, and
the value between opening and closing tag 3. -/
def ReadAck.parse (C : Codec) (payload : Octets) : Option ReadAck := do
  if payload[0]? = some 0x30 ∧ payload[2]? = some 0x0C then
    let invokeId ← payload[1]?
    let object ← contextOid C payload 3
    let (propId, next) ← contextPropId payload 8
    if payload[next]? = some 0x3E ∧ payload.getLast? = some 0x3F ∧ next + 2 ≤ payload.length then
      return ⟨invokeId, object, propId, (payload.drop (next + 1)).dropLast⟩
    else none
  else none

theorem ReadAck.head?_of_parse {C : Codec} {payload : Octets} {ack : ReadAck}
    (h : ReadAck.parse C payload = some ack) : payload.head? = some 0x30 := by
  unfold parse at h
  split at h
  · rename_i hpdu
    rw [List.head?_eq_getElem?]
    exact hpdu.1
  · cases h

/-- The value is what stands between the two tags, whatever octets it has. -/
theorem ReadAck.parse_append {C : Codec} {front value : Octets} {invokeId : UInt8}
    {object : ObjectIdentifier} {propId : Nat}
    (hpdu : (front ++ (0x3E :: value ++ [0x3F]))[0]? = some 0x30)
    (hinvoke : (front ++ (0x3E :: value ++ [0x3F]))[1]? = some invokeId)
    (hservice : (front ++ (0x3E :: value ++ [0x3F]))[2]? = some 0x0C)
    (hobject : contextOid C (front ++ (0x3E :: value ++ [0x3F])) 3 = some object)
    (hprop : contextPropId (front ++ (0x3E :: value ++ [0x3F])) 8 = some (propId, front.length)) :
    ReadAck.parse C (front ++ (0x3E :: value ++ [0x3F])) =
      some ⟨invokeId, object, propId, value⟩ := by
  have hopening : (front ++ (0x3E :: value ++ [0x3F]))[front.length]? = some 0x3E := by
    simp
  have hclosing : (front ++ (0x3E :: value ++ [0x3F])).getLast? = some 0x3F := by
    rw [← List.append_assoc, List.getLast?_concat]
  have hlen : front.length + 2 ≤ (front ++ (0x3E :: value ++ [0x3F])).length := by
    simp
  have hvalue : (front ++ (0x3E :: value ++ [0x3F])).drop (front.length + 1) = value ++ [0x3F] := by
    simp [List.drop_append]
  simp only [parse, hpdu, hinvoke, hservice, hobject, hprop, hopening, hclosing, hlen, hvalue,
    and_self, if_true, Option.bind_eq_bind, Option.bind_some, List.dropLast_concat]
  rfl

/-- What `build_rp_ack_for_oid` builds is read back as what it was built from. -/
theorem ReadAck.parse_build {C : Codec} (hC : C.EncodesParameters) {oid : ObjectIdentifier}
    (hoid : oid.Valid) (invokeId : UInt8) (propId : UInt16) (value : Octets) :
    ReadAck.parse C (buildRpAckForOid C invokeId oid propId value) =
      some ⟨invokeId, oid, propId.toNat, value⟩ := by
  have hdecode := hC.decode_oidOctets hoid
  obtain ⟨o₁, o₂, o₃, o₄, hoctets⟩ : ∃ o₁ o₂ o₃ o₄, Standard.oidOctets oid = [o₁, o₂, o₃, o₄] :=
    ⟨_, _, _, _, rfl⟩
  rw [hoctets] at hdecode
  have hobject : C.encodeCtxObjectId 0 oid = [0x0C, o₁, o₂, o₃, o₄] := by
    rw [hC.encodeCtxObjectId 0 oid (by decide) hoid, hoctets]
    rfl
  have hprop : C.encodeCtxUnsigned 1 propId.toUInt64 =
      Standard.tagged 1 8 (Standard.minimalOctets propId.toUInt64.toNat) :=
    hC.encodeCtxUnsigned 1 propId.toUInt64 (by decide)
  rw [Standard.minimalOctets_uint16] at hprop
  have hlt := propId.toNat_lt
  by_cases hshort : propId.toNat < 256
  · have hbuild : buildRpAckForOid C invokeId oid propId value =
        [0x30, invokeId, 0x0C, 0x0C, o₁, o₂, o₃, o₄, 0x19, UInt8.ofNat propId.toNat] ++
          (0x3E :: value ++ [0x3F]) := by
      rw [if_pos hshort] at hprop
      simp only [buildRpAckForOid, hobject, hprop]
      rfl
    rw [hbuild]
    apply ReadAck.parse_append rfl rfl rfl
    · simp [contextOid, hdecode]
    · have htag : (0x19 : UInt8) >>> 3 = 3 := rfl
      simp [contextPropId, htag, Tags.unsigned, Nat.mod_eq_of_lt hshort]
  · have hbuild : buildRpAckForOid C invokeId oid propId value =
        [0x30, invokeId, 0x0C, 0x0C, o₁, o₂, o₃, o₄, 0x1A, UInt8.ofNat (propId.toNat / 256),
          UInt8.ofNat propId.toNat] ++ (0x3E :: value ++ [0x3F]) := by
      rw [if_neg hshort] at hprop
      simp only [buildRpAckForOid, hobject, hprop]
      rfl
    rw [hbuild]
    apply ReadAck.parse_append rfl rfl rfl
    · simp [contextOid, hdecode]
    · have htag : (0x1A : UInt8) >>> 3 = 3 := rfl
      simp [contextPropId, htag, Tags.unsigned]
      omega

theorem buildReadPropertyAck_eq {C : Codec} {deviceId : UInt32} {oid : ObjectIdentifier}
    (h : C.oidNew .device deviceId = some oid) (invokeId : UInt8) (propId : UInt16)
    (valueBytes : Octets) : buildReadPropertyAck C invokeId deviceId propId valueBytes =
      buildRpAckForOid C invokeId oid propId valueBytes := by
  simp [buildReadPropertyAck, h, buildRpAckForOid]

theorem Codec.EncodesParameters.oidNew_device {C : Codec} (hC : C.EncodesParameters)
    (deviceId : UInt32) : C.oidNew .device deviceId =
      if deviceId ≤ 4194303 then some ⟨.device, deviceId⟩ else none :=
  hC.oidNew .device deviceId (by decide)

/-- An acknowledgement can be read back, so two that are the same were built from
the same; and both builders build the same for the Device. -/
theorem rp_ack_framing_lossless {C : Codec} (hC : C.EncodesParameters) :
    (∀ invokeId oid propId valueBytes, oid.Valid →
      ReadAck.parse C (buildRpAckForOid C invokeId oid propId valueBytes) =
        some ⟨invokeId, oid, propId.toNat, valueBytes⟩) ∧
    (∀ invokeId oid propId valueBytes invokeId' oid' propId' valueBytes', oid.Valid → oid'.Valid →
      buildRpAckForOid C invokeId oid propId valueBytes =
        buildRpAckForOid C invokeId' oid' propId' valueBytes' →
      invokeId = invokeId' ∧ oid = oid' ∧ propId = propId' ∧ valueBytes = valueBytes') ∧
    ∀ invokeId (deviceId : UInt32) propId valueBytes,
      (deviceId ≤ 4194303 → buildReadPropertyAck C invokeId deviceId propId valueBytes =
        buildRpAckForOid C invokeId ⟨.device, deviceId⟩ propId valueBytes) ∧
      (4194303 < deviceId → buildReadPropertyAck C invokeId deviceId propId valueBytes = []) := by
  refine ⟨?_, ?_, ?_⟩
  · intro invokeId oid propId valueBytes hoid
    exact ReadAck.parse_build hC hoid invokeId propId valueBytes
  · intro invokeId oid propId valueBytes invokeId' oid' propId' valueBytes' hoid hoid' hsame
    have hread := ReadAck.parse_build hC hoid invokeId propId valueBytes
    rw [hsame, ReadAck.parse_build hC hoid'] at hread
    injection hread with hread
    injection hread with hinvoke hobject hprop hvalue
    exact ⟨hinvoke.symm, hobject.symm, UInt16.toNat_inj.mp hprop.symm, hvalue.symm⟩
  · intro invokeId deviceId propId valueBytes
    have hnew := hC.oidNew_device deviceId
    constructor
    · intro hle
      rw [if_pos hle] at hnew
      exact buildReadPropertyAck_eq hnew invokeId propId valueBytes
    · intro hlt
      rw [if_neg (UInt32.not_le.mpr hlt)] at hnew
      simp [buildReadPropertyAck, hnew]

/-- A value that holds both delimiters is told apart from its frame. -/
theorem delimiters_in_value_read_back :
    ReadAck.parse .standard
      (buildRpAckForOid .standard 1 ⟨.analogOutput, 1⟩ 85 [0x3F, 0x3E, 0x3F]) =
        some ⟨1, ⟨.analogOutput, 1⟩, 85, [0x3F, 0x3E, 0x3F]⟩ :=
  (rp_ack_framing_lossless Codec.standard_encodesParameters).1 1 ⟨.analogOutput, 1⟩ 85
    [0x3F, 0x3E, 0x3F] ⟨by decide, by decide⟩

end BacnetBridge
