import BacnetBridge.ReadAck

/-! The I-Am of the device, as a client reads it, beside the one that
`examples/lan_device_sim.rs` builds. -/
namespace BacnetBridge

/-! ## The grammar -/

/-- An I-Am-Request. -/
structure IAm where
  device : ObjectIdentifier
  maxApdu : Nat
  segmentation : Nat
  vendorId : Nat
  deriving DecidableEq, Repr

/-- Object identifier, Unsigned, Enumerated and Unsigned under their application
tags, and nothing behind them. -/
def IAm.parse (C : Codec) (request : Octets) : Option IAm := do
  let (device, rest) ← Tags.application 12 request
  let (maxApdu, rest) ← Tags.application 2 rest
  let (segmentation, rest) ← Tags.application 9 rest
  let (vendorId, rest) ← Tags.application 2 rest
  if device.length = 4 ∧ rest = [] then
    let device ← C.oidDecode device
    let maxApdu ← Tags.unsigned maxApdu 0 maxApdu.length
    let segmentation ← Tags.unsigned segmentation 0 segmentation.length
    let vendorId ← Tags.unsigned vendorId 0 vendorId.length
    return ⟨device, maxApdu, segmentation, vendorId⟩
  else none

theorem application_tagged {number : Nat} (hnumber : number < 15) {value : Octets}
    (hlength : value.length < 2 ^ 32) (rest : Octets) :
    Tags.application number (Standard.tagged number 0 value ++ rest) = some (value, rest) := by
  simp [Tags.application, Tags.valueUnder, Standard.primitive_tagged hnumber (.inl rfl) hlength,
    Standard.tagOf]

/-- The four values in their order read as the I-Am of their contents. -/
theorem IAm.parse_tagged {C : Codec} {device maxApdu segmentation vendorId : Octets}
    {oid : ObjectIdentifier} {n₁ n₂ n₃ : Nat} (hdevice : device.length = 4)
    (h₁ : maxApdu.length < 2 ^ 32) (h₂ : segmentation.length < 2 ^ 32)
    (h₃ : vendorId.length < 2 ^ 32) (hoid : C.oidDecode device = some oid)
    (hmaxApdu : Tags.unsigned maxApdu 0 maxApdu.length = some n₁)
    (hsegmentation : Tags.unsigned segmentation 0 segmentation.length = some n₂)
    (hvendorId : Tags.unsigned vendorId 0 vendorId.length = some n₃) :
    IAm.parse C (Standard.tagged 12 0 device ++ (Standard.tagged 2 0 maxApdu ++
      (Standard.tagged 9 0 segmentation ++ (Standard.tagged 2 0 vendorId ++ [])))) =
        some ⟨oid, n₁, n₂, n₃⟩ := by
  have hlength : device.length < 2 ^ 32 := by omega
  simp only [IAm.parse, application_tagged (by decide : 12 < 15) hlength,
    application_tagged (by decide : 2 < 15) h₁, application_tagged (by decide : 9 < 15) h₂,
    application_tagged (by decide : 2 < 15) h₃, Option.bind_eq_bind, Option.bind_some, hdevice,
    and_self, if_true, hoid, hmaxApdu, hsegmentation, hvendorId]
  rfl

/-- A context tag is no application tag, whatever its number. -/
theorem application_context {number : Nat} (hnumber : number < 15) {value : Octets}
    (hlength : value.length < 2 ^ 32) (wanted : Nat) (rest : Octets) :
    Tags.application wanted (Standard.tagged number 8 value ++ rest) = none := by
  simp [Tags.application, Tags.valueUnder, Standard.primitive_tagged hnumber (.inr rfl) hlength,
    Standard.tagOf]

/-! ## What `send_iam` sends -/

/-- The service request that `send_iam` builds. -/
def iamRequest (C : Codec) (oid : ObjectIdentifier) (vendorId : UInt16) : Octets :=
  C.encodeCtxObjectId 0 oid ++ C.encodeCtxUnsigned 1 1476 ++ C.encodeCtxEnumerated 2 0 ++
    C.encodeCtxUnsigned 3 vendorId.toUInt64

/-- What is broadcast carries that request, and it is broadcast unless an encoder
fails. -/
theorem sendIam_cases {C : Codec} {config : LocalDeviceConfig} {oid : ObjectIdentifier}
    (h : C.oidNew .device config.deviceId = some oid) :
    (sendIam C config = [] ∧ ∀ payload, C.encodeApdu
      (.unconfirmedRequest .iAm (iamRequest C oid config.vendorId)) = some payload →
        ∃ npdu : Npdu, npdu.payload = payload ∧ C.encodeNpdu npdu = none) ∨
    ∃ payload npdu buf, sendIam C config = [.broadcast npdu buf] ∧ npdu.payload = payload ∧
      C.encodeNpdu npdu = some buf ∧ C.encodeApdu
        (.unconfirmedRequest .iAm (iamRequest C oid config.vendorId)) = some payload := by
  unfold sendIam
  rw [h]
  dsimp only
  rw [← iamRequest]
  cases hpayload : C.encodeApdu (.unconfirmedRequest .iAm (iamRequest C oid config.vendorId)) with
  | none => exact .inl ⟨rfl, by simp⟩
  | some payload =>
    dsimp only
    split
    · rename_i hnpdu
      refine .inl ⟨rfl, ?_⟩
      intro _ hsame
      obtain rfl := Option.some.inj hsame
      exact ⟨_, rfl, hnpdu⟩
    · rename_i buf hnpdu
      exact .inr ⟨payload, _, buf, rfl, rfl, hnpdu, rfl⟩

/-- The Device's identifier stands under context tag 0. -/
theorem parse_iamRequest {C : Codec} (hC : C.EncodesParameters) {oid : ObjectIdentifier}
    (hoid : oid.Valid) (vendorId : UInt16) : IAm.parse C (iamRequest C oid vendorId) = none := by
  have hlength : (Standard.oidOctets oid).length < 2 ^ 32 := by
    simp
  have hfirst : C.encodeCtxObjectId 0 oid = Standard.tagged 0 8 (Standard.oidOctets oid) :=
    hC.encodeCtxObjectId 0 oid (by decide) hoid
  unfold IAm.parse iamRequest
  rw [List.append_assoc, List.append_assoc, hfirst,
    application_context (by decide : 0 < 15) hlength]
  rfl

/-! ## The simulator's I-Am -/

/-- `object_id_bytes`. -/
def objectIdBytes (inst : UInt32) : Octets :=
  let encoded : UInt32 := (8 : UInt32) <<< 22 ||| (inst &&& 0x3FFFFF)
  [(encoded >>> 24).toUInt8, (encoded >>> 16).toUInt8, (encoded >>> 8).toUInt8, encoded.toUInt8]

/-- `build_iam_apdu`. -/
def buildIamApdu (deviceId : UInt32) (vendorId : UInt16) : Octets :=
  let vendor : Octets := [0x22, (vendorId >>> 8).toUInt8, vendorId.toUInt8]
  [0x10, 0x00] ++ [0xC4] ++ objectIdBytes deviceId ++ [0x22, 0x05, 0xC4] ++ [0x91, 0x00] ++ vendor

/-- Type and instance do not overlap. -/
theorem toNat_encoded {inst : UInt32} (h : inst ≤ 4194303) :
    ((8 : UInt32) <<< 22 ||| (inst &&& 0x3FFFFF)).toNat = 8 * 2 ^ 22 + inst.toNat := by
  have hlt := lt_of_le_max h
  have hmask : inst.toNat &&& 4194303 = inst.toNat := by
    rw [Nat.and_two_pow_sub_one_eq_mod inst.toNat 22, Nat.mod_eq_of_lt hlt]
  have hor := Nat.shiftLeft_add_eq_or_of_lt hlt 8
  rw [Nat.shiftLeft_eq] at hor
  simp [UInt32.toNat_or, UInt32.toNat_and, UInt32.toNat_shiftLeft, hmask, hor]

theorem objectIdBytes_eq {inst : UInt32} (h : inst ≤ 4194303) :
    objectIdBytes inst = Standard.oidOctets ⟨.device, inst⟩ := by
  have hraw : ObjectType.device.raw.toNat = 8 := rfl
  unfold objectIdBytes Standard.oidOctets
  rw [hraw, ← toNat_encoded h]
  generalize ((8 : UInt32) <<< 22 ||| (inst &&& 0x3FFFFF)) = encoded
  simp [Standard.octets, ← UInt8.toNat_inj, Nat.shiftRight_eq_div_pow, Nat.div_div_eq_div_mul]

/-- Under application tags the same four values read back. -/
theorem simulated_iam_decodes {C : Codec} (hC : C.EncodesParameters) {deviceId : UInt32}
    (h : deviceId ≤ 4194303) (vendorId : UInt16) :
    IAm.parse C ((buildIamApdu deviceId vendorId).drop 2) =
      some ⟨⟨.device, deviceId⟩, 1476, 0, vendorId.toNat⟩ := by
  have hvalid : (⟨.device, deviceId⟩ : ObjectIdentifier).Valid := by
    constructor
    · exact (by decide : ObjectType.device.raw.toNat < 2 ^ 10)
    · exact lt_of_le_max h
  have hdecode := hC.decode_oidOctets hvalid
  have hrequest : (buildIamApdu deviceId vendorId).drop 2 =
      Standard.tagged 12 0 (Standard.oidOctets ⟨.device, deviceId⟩) ++
        (Standard.tagged 2 0 [0x05, 0xC4] ++ (Standard.tagged 9 0 [0x00] ++
          (Standard.tagged 2 0 [(vendorId >>> 8).toUInt8, vendorId.toUInt8] ++ []))) := by
    rw [buildIamApdu, objectIdBytes_eq h]
    rfl
  have hvendor : Tags.unsigned [(vendorId >>> 8).toUInt8, vendorId.toUInt8] 0 2 =
      some vendorId.toNat := by
    have hlt := vendorId.toNat_lt
    simp [Tags.unsigned, Nat.shiftRight_eq_div_pow]
    omega
  have hlength : (Standard.oidOctets ⟨.device, deviceId⟩).length = 4 := by
    simp
  rw [hrequest]
  exact IAm.parse_tagged hlength (by decide) (by decide) (by simp) hdecode rfl rfl hvendor

/-- The I-Am of the device never decodes, whatever its instance and vendor: its
first value has a context tag. -/
theorem iam_never_decodes {C : Codec} (hC : C.EncodesParameters) (config : LocalDeviceConfig)
    (h : config.deviceId ≤ 4194303) :
    IAm.parse C (iamRequest C ⟨.device, config.deviceId⟩ config.vendorId) = none ∧
    (∀ frame ∈ sendIam C config, ∃ payload npdu buf, frame = .broadcast npdu buf ∧
      npdu.payload = payload ∧ C.encodeNpdu npdu = some buf ∧ C.encodeApdu
        (.unconfirmedRequest .iAm (iamRequest C ⟨.device, config.deviceId⟩ config.vendorId)) =
          some payload) ∧
    ((∀ apdu, (C.encodeApdu apdu).isSome) → (∀ npdu, (C.encodeNpdu npdu).isSome) →
      sendIam C config ≠ []) := by
  have hoid := hC.oidNew_device config.deviceId
  rw [if_pos h] at hoid
  refine ⟨parse_iamRequest hC (hC.oidNew_eq_some (by decide) hoid).2 _, ?_, ?_⟩
  · intro frame hframe
    rcases sendIam_cases hoid with ⟨hnone, -⟩ | ⟨payload, npdu, buf, hsent, hcarries⟩
    · simp [hnone] at hframe
    · rw [hsent, List.mem_singleton] at hframe
      exact ⟨payload, npdu, buf, hframe, hcarries⟩
  · intro hapdu hnpdu
    rcases sendIam_cases hoid with ⟨-, hfails⟩ | ⟨_, _, _, hsent, -⟩
    · obtain ⟨payload, hpayload⟩ := Option.isSome_iff_exists.mp (hapdu _)
      obtain ⟨npdu, -, hnone⟩ := hfails payload hpayload
      have hsome := hnpdu npdu
      simp [hnone] at hsome
    · simp [hsent]

theorem default_iam_never_decodes :
    IAm.parse .standard (iamRequest .standard ⟨.device, 4194303⟩ 15) = none :=
  (iam_never_decodes Codec.standard_encodesParameters defaultDevice (by decide)).1

/-- The default device broadcasts a request that does not decode; the simulator's,
for the same device, does. -/
theorem default_iam_is_unreadable :
    (∃ npdu buf, sendIam .standard defaultDevice = [.broadcast npdu buf] ∧
      npdu.payload = [0x10, 0x00] ++ iamRequest .standard ⟨.device, 4194303⟩ 15) ∧
    IAm.parse .standard (iamRequest .standard ⟨.device, 4194303⟩ 15) ≠
      some ⟨⟨.device, 4194303⟩, 1476, 0, 15⟩ ∧
    IAm.parse .standard ((buildIamApdu 4194303 15).drop 2) =
      some ⟨⟨.device, 4194303⟩, 1476, 0, 15⟩ := by
  have hnone : IAm.parse .standard (iamRequest .standard ⟨.device, 4194303⟩ 15) = none := by
    decide
  refine ⟨⟨_, _, rfl, rfl⟩, ?_, simulated_iam_decodes Codec.standard_encodesParameters ?_ 15⟩
  · rw [hnone]
    intro h
    cases h
  · decide

end BacnetBridge
