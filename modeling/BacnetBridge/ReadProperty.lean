import BacnetBridge.ReadAck
import BacnetBridge.WriteProperty

/-! What a ReadProperty that is not in the cache can get for an answer, and whose
data it is. -/
namespace BacnetBridge

/-! ## One ReadProperty -/

section

variable (C : Codec) (config : LocalDeviceConfig) (msg : ReceivedApdu) (objects : Objects)
  (invokeId : UInt8)

/-- The octets that the handler takes for an object and a property name one that
is served; `payload` is the ReadProperty-ACK for it. -/
inductive AckDue : ObjectIdentifier → UInt16 → Octets → Prop
  | device {oid : ObjectIdentifier} {propId : UInt16} {valueBytes : Octets}
      (property : readPropId msg.apdu = .ok (some propId))
      (target : ∀ asked, parseOidFromRequest C msg.apdu = .ok (some asked) → asked = oid)
      (device : C.oidNew .device config.deviceId = some oid) (known : propId ∈ knownProps)
      (value : deviceValueBytes config propId = .ok valueBytes) :
      AckDue oid propId (buildRpAckForOid C invokeId oid propId valueBytes)
  | object {oid deviceOid : ObjectIdentifier} {state : ObjectState} {propId : UInt16}
      {valueBytes : Octets} (property : readPropId msg.apdu = .ok (some propId))
      (target : parseOidFromRequest C msg.apdu = .ok (some oid))
      (device : C.oidNew .device config.deviceId = some deviceOid) (ne : oid ≠ deviceOid)
      (found : objects oid = some state) (known : propId ∈ aoAvLoProps)
      (value : objectValueBytes C state propId = .ok valueBytes) :
      AckDue oid propId
        (buildRpAckForOid C invokeId ⟨state.objectType, state.inst⟩ propId valueBytes)

/-- All that a ReadProperty without an entry in the cache can lead to. -/
inductive Read (cache : Cache) : Cache × List Sent → Prop
  | unread (h : readPropId msg.apdu = .ok none) : Read cache (cache, [])
  | nameless (h : C.oidNew .device config.deviceId = none) : Read cache (cache, [])
  | refused (errorClass : ErrorClass) (errorCode : ErrorCode) :
      Read cache (cache, sendError C config msg invokeId .readProperty errorClass errorCode)
  | unencoded
      (h : C.encodeApdu (.error ⟨invokeId, .readProperty, .property, .unknownProperty, []⟩) =
        none) : Read cache (cache, [])
  | unknownProperty {payload : Octets}
      (h : C.encodeApdu (.error ⟨invokeId, .readProperty, .property, .unknownProperty, []⟩) =
        some payload) : Read cache (cacheAndSend C cache invokeId (replyNpdu config msg payload))
  | acked {oid : ObjectIdentifier} {propId : UInt16} {payload : Octets}
      (due : AckDue C config msg objects invokeId oid propId payload) :
      Read cache (cacheAndSend C cache invokeId (replyNpdu config msg payload))

end

variable {C : Codec} {config : LocalDeviceConfig} {msg : ReceivedApdu} {objects : Objects}
  {invokeId : UInt8}

theorem buildRpAckForOid_ne_nil (C : Codec) (invokeId : UInt8) (oid : ObjectIdentifier)
    (propId : UInt16) (valueBytes : Octets) :
    (buildRpAckForOid C invokeId oid propId valueBytes).isEmpty = false := by
  simp [buildRpAckForOid]

theorem readDevice_cases {cache : Cache} {answer : Cache × List Sent} {oid : ObjectIdentifier}
    {propId : UInt16} (property : readPropId msg.apdu = .ok (some propId))
    (target : ∀ asked, parseOidFromRequest C msg.apdu = .ok (some asked) → asked = oid)
    (device : C.oidNew .device config.deviceId = some oid)
    (h : readDevice C config msg cache propId invokeId = .ok answer) :
    Read C config msg objects invokeId cache answer := by
  unfold readDevice at h
  split at h
  · split at h
    · rename_i hencode
      cases h
      exact .unencoded hencode
    · rename_i payload hencode
      obtain rfl := Except.ok.inj h
      exact .unknownProperty hencode
  · rename_i hknown
    obtain ⟨valueBytes, hvalue, h⟩ := ok_of_bind h
    simp only [buildReadPropertyAck_eq device, buildRpAckForOid_ne_nil, Bool.false_eq_true,
      if_false] at h
    obtain rfl := Except.ok.inj h
    exact .acked (.device property target device (not_not.mp hknown) hvalue)

theorem handleReadPropertyAoAvLo_cases {cache : Cache} {answer : Cache × List Sent}
    {oid deviceOid : ObjectIdentifier} {state : ObjectState} {propId : UInt16}
    (property : readPropId msg.apdu = .ok (some propId))
    (target : parseOidFromRequest C msg.apdu = .ok (some oid))
    (device : C.oidNew .device config.deviceId = some deviceOid) (ne : oid ≠ deviceOid)
    (found : objects oid = some state)
    (h : handleReadPropertyAoAvLo C config msg cache state propId invokeId = .ok answer) :
    Read C config msg objects invokeId cache answer := by
  unfold handleReadPropertyAoAvLo at h
  split at h
  · cases h
    exact .refused ..
  · rename_i hknown
    obtain ⟨valueBytes, hvalue, h⟩ := ok_of_bind h
    simp only [buildRpAckForOid_ne_nil, Bool.false_eq_true, if_false] at h
    obtain rfl := Except.ok.inj h
    exact .acked (.object property target device ne found (not_not.mp hknown) hvalue)

theorem read_cases {cache : Cache} {answer : Cache × List Sent}
    (h : readUncached C config msg cache objects invokeId = .ok answer) :
    Read C config msg objects invokeId cache answer := by
  unfold readUncached at h
  obtain ⟨found, hprop, h⟩ := ok_of_bind h
  split at h
  · cases h
    exact .unread hprop
  rename_i propId
  obtain ⟨requestOid, htarget, h⟩ := ok_of_bind h
  split at h
  · rename_i hnone
    cases h
    exact .nameless hnone
  rename_i deviceOid hdevice
  split at h
  · refine readDevice_cases hprop (fun asked hasked => ?_) hdevice h
    cases htarget.symm.trans hasked
  rename_i oid
  split at h
  · rename_i heq
    refine readDevice_cases hprop (fun asked hasked => ?_) hdevice h
    cases htarget.symm.trans hasked
    exact heq
  · rename_i hne
    split at h
    · rename_i state hfound
      exact handleReadPropertyAoAvLo_cases hprop htarget hdevice hne hfound h
    · cases h
      exact .refused ..

/-- The handler looks for the object identifier where an unsegmented request has it. -/
theorem parseOidFromRequest_eq (C : Codec) (apdu : Octets) :
    parseOidFromRequest C apdu = .ok (contextOid C apdu 4) := by
  unfold parseOidFromRequest contextOid
  by_cases hlen : apdu.length < 9
  · rw [if_pos hlen, if_neg (by omega)]
    rfl
  · have htag : apdu[4]? = some apdu[4] := List.getElem?_eq_getElem (by omega)
    rw [if_neg hlen, index_of_lt (by omega), slice_of_le (by omega) (by omega), htag]
    by_cases hctx0 : apdu[4] = 0x0C
    · simp only [bind, Except.bind, hctx0, ne_eq, not_true, if_false]
      rw [if_pos ⟨trivial, by omega⟩]
      rfl
    · simp only [bind, Except.bind, ne_eq, hctx0, not_false_iff, if_true, Option.some.injEq,
        false_and, if_false]
      rfl

/-- Where an acknowledgement is due, it is what is sent and filed. -/
theorem AckDue.readUncached {oid : ObjectIdentifier} {propId : UInt16} {payload : Octets}
    (h : AckDue C config msg objects invokeId oid propId payload) (cache : Cache) :
    readUncached C config msg cache objects invokeId =
      .ok (cacheAndSend C cache invokeId (replyNpdu config msg payload)) := by
  cases h with
  | @device _ valueBytes property target device known value =>
    have hread : readDevice C config msg cache propId invokeId = .ok (cacheAndSend C cache invokeId
        (replyNpdu config msg (buildRpAckForOid C invokeId oid propId valueBytes))) := by
      simp only [readDevice, not_not.mpr known, if_false, value, bind, Except.bind,
        buildReadPropertyAck_eq device, buildRpAckForOid_ne_nil, Bool.false_eq_true]
      rfl
    rw [parseOidFromRequest_eq] at target
    unfold BacnetBridge.readUncached
    rw [property, parseOidFromRequest_eq, device]
    cases hasked : contextOid C msg.apdu 4 with
    | none => exact hread
    | some asked =>
      have heq := target asked (by rw [hasked])
      simp only [bind, Except.bind, heq, if_true]
      exact hread
  | object property target device ne found known value =>
    unfold BacnetBridge.readUncached
    rw [property, target, device]
    simp only [bind, Except.bind, ne, if_false, found, handleReadPropertyAoAvLo,
      not_not.mpr known, value, buildRpAckForOid_ne_nil, Bool.false_eq_true]
    rfl

theorem mem_cacheAndSend {cache : Cache} {npdu : Npdu} {frame : Sent} :
    frame ∈ (cacheAndSend C cache invokeId npdu).2 ↔
      ∃ buf, C.encodeNpdu npdu = some buf ∧ frame = .reply npdu buf := by
  unfold cacheAndSend
  cases C.encodeNpdu npdu <;> simp

/-- What is sent without the cache is an Error or an acknowledgement that is due. -/
theorem mem_readUncached {cache cache' : Cache} {sent : List Sent} {frame : Sent}
    (h : readUncached C config msg cache objects invokeId = .ok (cache', sent))
    (hframe : frame ∈ sent) :
    ∃ payload buf, frame = .reply (replyNpdu config msg payload) buf ∧
      C.encodeNpdu (replyNpdu config msg payload) = some buf ∧
      ((∃ errorClass errorCode,
          C.encodeApdu (.error ⟨invokeId, .readProperty, errorClass, errorCode, []⟩) =
            some payload) ∨
        ∃ oid propId, AckDue C config msg objects invokeId oid propId payload) := by
  have hcases := read_cases h
  generalize hanswer : (cache', sent) = answer at hcases
  obtain rfl : sent = answer.2 := congrArg Prod.snd hanswer
  cases hcases with
  | unread | nameless | unencoded => cases hframe
  | refused errorClass errorCode =>
    obtain ⟨payload, buf, hpayload, hbuf, rfl⟩ := mem_sendError hframe
    exact ⟨payload, buf, rfl, hbuf, .inl ⟨_, _, hpayload⟩⟩
  | unknownProperty hpayload =>
    obtain ⟨buf, hbuf, rfl⟩ := mem_cacheAndSend.mp hframe
    exact ⟨_, buf, rfl, hbuf, .inl ⟨_, _, hpayload⟩⟩
  | acked hdue =>
    obtain ⟨buf, hbuf, rfl⟩ := mem_cacheAndSend.mp hframe
    exact ⟨_, buf, rfl, hbuf, .inr ⟨_, _, hdue⟩⟩

end BacnetBridge
