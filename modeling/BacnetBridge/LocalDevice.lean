import Mathlib.Logic.Function.Basic
import BacnetBridge.Codec

/-! `local_device.rs`: the BACnet device of the bridge, one APDU at a time. A
handler that panics kills the device's task. -/
namespace BacnetBridge

structure LocalDeviceConfig where
  deviceId : UInt32
  vendorId : UInt16
  deviceName : String
  transportMode : String
  localNetwork : UInt16
  localMac : Octets
  deriving DecidableEq, Repr

structure ReceivedApdu where
  apdu : Octets
  sourceMac : Octets
  sourceNetwork : Option NpduAddress
  deriving DecidableEq, Repr

structure ObjectState where
  objectType : ObjectType
  inst : UInt32
  presentValue : F32
  priorityArray : Vector (Option F32) 16
  relinquishDefault : F32
  outOfService : Bool
  deriving DecidableEq, Repr

namespace ObjectState

def resolvePresentValue (s : ObjectState) : F32 :=
  (s.priorityArray.toList.filterMap id).head?.getD s.relinquishDefault

def updatePriority (s : ObjectState) (priority : Nat) (value : Option F32) : ObjectState :=
  if h : 1 ≤ priority ∧ priority ≤ 16 then
    let s := { s with priorityArray := s.priorityArray.set (priority - 1) value (by omega) }
    { s with presentValue := s.resolvePresentValue }
  else s

end ObjectState

def makeObject (objectType : ObjectType) (inst : UInt32) : ObjectState where
  objectType
  inst
  presentValue := .zero
  priorityArray := .replicate 16 none
  relinquishDefault := .zero
  outOfService := false

abbrev Objects := ObjectIdentifier → Option ObjectState

/-- What holds of every object still does after one is stored exactly if it holds of
that one. -/
theorem forall_stored_iff {P : ObjectIdentifier → ObjectState → Prop} {objects : Objects}
    (h : ∀ oid state, objects oid = some state → P oid state) {oid : ObjectIdentifier}
    {state : ObjectState} :
    (∀ oid' state', Function.update objects oid (some state) oid' = some state' → P oid' state') ↔
      P oid state := by
  constructor
  · exact fun h' => h' oid state (Function.update_self ..)
  · intro hstate oid' state' hfound
    by_cases heq : oid' = oid
    · subst heq
      rw [Function.update_self] at hfound
      exact Option.some.inj hfound ▸ hstate
    · rw [Function.update_of_ne heq] at hfound
      exact h oid' state' hfound

/-- `apdu_cache`: the frame last cached for an invoke id. -/
abbrev Cache := UInt8 → Option Octets

/-- A frame handed to the transport: a reply built for the message, one from the
cache, or a broadcast. -/
inductive Sent
  | reply (npdu : Npdu) (buf : Octets)
  | cached (buf : Octets)
  | broadcast (npdu : Npdu) (buf : Octets)
  deriving DecidableEq, Repr

def Sent.frame : Sent → Octets
  | .reply _ buf | .cached buf | .broadcast _ buf => buf

section Handlers

variable (C : Codec) (config : LocalDeviceConfig) (msg : ReceivedApdu)

/-! ## Building and sending -/

def buildReadPropertyAck (invokeId : UInt8) (deviceId : UInt32) (propId : UInt16)
    (valueBytes : Octets) : Octets :=
  match C.oidNew .device deviceId with
  | none => []
  | some oid =>
    [0x30, invokeId] ++ [0x0C] ++ C.encodeCtxObjectId 0 oid ++
      C.encodeCtxUnsigned 1 propId.toUInt64 ++ [0x3E] ++ valueBytes ++ [0x3F]

def buildRpAckForOid (invokeId : UInt8) (oid : ObjectIdentifier) (propId : UInt16)
    (valueBytes : Octets) : Octets :=
  [0x30, invokeId] ++ [0x0C] ++ C.encodeCtxObjectId 0 oid ++
    C.encodeCtxUnsigned 1 propId.toUInt64 ++ [0x3E] ++ valueBytes ++ [0x3F]

def buildSubscribeCovAck (invokeId : UInt8) : Octets := [0x20, invokeId, 0x05]

/-- Where replies go: to the network the message came from, or to its MAC on
network 1. -/
def replyDestination : Option NpduAddress := msg.sourceNetwork.or (some ⟨1, msg.sourceMac⟩)

def unicastNpdu (source : NpduAddress) (payload : Octets) : Npdu where
  isNetworkMessage := false
  expectingReply := false
  priority := .normal
  source := some source
  destination := replyDestination msg
  hopCount := 255
  payload := payload

/-- The NPDU of every reply but the one to SubscribeCOV. -/
def replyNpdu (payload : Octets) : Npdu :=
  unicastNpdu msg ⟨config.localNetwork, config.localMac⟩ payload

def sendUnicast (npdu : Npdu) : List Sent :=
  match C.encodeNpdu npdu with
  | none => []
  | some buf => [.reply npdu buf]

/-- The frame goes into the cache before it is sent. -/
def cacheAndSend (cache : Cache) (invokeId : UInt8) (npdu : Npdu) : Cache × List Sent :=
  match C.encodeNpdu npdu with
  | none => (cache, [])
  | some buf => (Function.update cache invokeId (some buf), [.reply npdu buf])

def sendError (invokeId : UInt8) (serviceChoice : ConfirmedServiceChoice) (errorClass : ErrorClass)
    (errorCode : ErrorCode) : List Sent :=
  match C.encodeApdu (.error ⟨invokeId, serviceChoice, errorClass, errorCode, []⟩) with
  | none => []
  | some payload => sendUnicast C (replyNpdu config msg payload)

def sendSimpleAck (invokeId service : UInt8) : List Sent :=
  sendUnicast C (replyNpdu config msg [0x20, invokeId, service])

def sendIam : List Sent :=
  match C.oidNew .device config.deviceId with
  | none => []
  | some oid =>
    let serviceRequest := C.encodeCtxObjectId 0 oid ++ C.encodeCtxUnsigned 1 1476 ++
      C.encodeCtxEnumerated 2 0 ++ C.encodeCtxUnsigned 3 config.vendorId.toUInt64
    match C.encodeApdu (.unconfirmedRequest .iAm serviceRequest) with
    | none => []
    | some payload =>
      let npdu : Npdu :=
        { isNetworkMessage := false
          expectingReply := false
          priority := .normal
          source := some ⟨config.localNetwork, config.localMac⟩
          destination := some ⟨0xFFFF, []⟩
          hopCount := 255
          payload := payload }
      match C.encodeNpdu npdu with
      | none => []
      | some buf => [.broadcast npdu buf]

/-! ## Parsing -/

def parseOidFromRequest (apdu : Octets) : Except Panic (Option ObjectIdentifier) := do
  if apdu.length < 9 then
    return none
  else if (← index apdu 4) ≠ 0x0C then
    return none
  else
    return C.oidDecode (← slice apdu 5 9)

/-- The property identifier of a ReadProperty. The check on the length counts
one octet of it, whatever the tag says. -/
def readPropId (apdu : Octets) : Except Panic (Option UInt16) := do
  let ctx1 ← index apdu 9
  let propLen := ctx1 &&& 0x07
  if propLen = 0 ∨ propLen > 4 ∨ apdu.length ≤ 10 then
    return none
  else if propLen = 1 then
    return some (← index apdu 10).toUInt16
  else if propLen = 2 then
    return some (u16FromBeBytes (← index apdu 10) (← index apdu 11))
  else
    return none

/-- The property identifier of a WriteProperty, and the offset after it. The
source checks the length against that offset a second time. -/
def writePropId (apdu : Octets) : Except Panic (Option (UInt16 × Nat)) := do
  let ctx1 ← index apdu 9
  let propLen := ctx1 &&& 0x07
  if propLen = 0 ∨ propLen > 4 ∨ apdu.length ≤ 10 + propLen.toNat then
    return none
  else if propLen = 1 then
    return some ((← index apdu 10).toUInt16, 10 + propLen.toNat)
  else if propLen = 2 then
    return some (u16FromBeBytes (← index apdu 10) (← index apdu 11), 10 + propLen.toNat)
  else
    return none

/-- The value under context tag 2: `none` when it cannot be read, and otherwise
`none` inside for Null. -/
def parseTaggedValue (apdu : Octets) (tag2 : Tags.Tag) (pos2 : Nat) :
    Except Panic (Option (Option F32)) := do
  if tag2.length = 0 then
    return some none
  else if pos2 + tag2.length > apdu.length then
    return none
  else
    match C.decodeTag apdu pos2 with
    | none => return none
    | some (appTag, appPos) =>
      if appTag.number = 0 then
        return some none
      else if appTag.number = 4 then
        if appTag.length ≠ 4 ∨ appPos + 4 > apdu.length then
          return none
        else
          let bytes ← slice apdu appPos (appPos + 4)
          return some (some (.fromBeBytes (← index bytes 0) (← index bytes 1) (← index bytes 2)
            (← index bytes 3)))
      else
        return none

/-- The priority under context tag 3; 0 when there is none. -/
def parsePriority (apdu : Octets) (afterValue : Nat) : Except Panic UInt8 := do
  if afterValue < apdu.length then
    match C.decodeTag apdu afterValue with
    | some (tag3, _) =>
      if tag3.isContext 3 ∧ tag3.length > 0 then
        if afterValue + 1 < apdu.length then
          index apdu (afterValue + 1)
        else
          return 0
      else
        return 0
    | none => return 0
  else
    return 0

def parseWritePropertyValue (apdu : Octets) (offset : Nat) :
    Except Panic (Option (Option F32 × UInt8)) := do
  match C.decodeTag apdu offset with
  | none => return none
  | some (tag2, pos2) =>
    if tag2.isContext 2 = false then
      return none
    else
      match ← parseTaggedValue C apdu tag2 pos2 with
      | none => return none
      | some value =>
        let priority ← parsePriority C apdu (pos2 + tag2.length)
        return some (value, priority)

/-! ## Values -/

/-- Octets of a string behind the tag octet and one length octet. -/
def shortString (s : String) : Octets :=
  let bytes := s.toUTF8.toList
  [0x75, UInt8.ofNat bytes.length] ++ bytes

def knownProps : List UInt16 := [11, 12, 13, 62, 75, 76, 85, 97, 139, 512]

/-- The value of a property of the Device object. -/
def deviceValueBytes (propId : UInt16) : Except Panic Octets :=
  match propId with
  | 11 => .ok [0x22, 0x0B, 0xB8]
  | 75 =>
    let name := if config.deviceName.isEmpty then "BACnet-Bridge" else config.deviceName
    .ok (shortString name)
  | 76 => .ok [0x22, (config.vendorId >>> 8).toUInt8, config.vendorId.toUInt8]
  | 85 => .ok [0x75, 5, 0x30, 0x2E, 0x31, 0x2E, 0x30]
  | 12 => .ok [0x91, 0x00]
  | 13 => .ok [0x91, 0x18]
  | 62 => .ok [0x91, 0x02]
  | 512 => .ok (shortString config.transportMode)
  | 97 => .ok [0x85, 5, 5, 0x84, 0x0B, 0x00, 0x20]
  | 139 => .ok [0x21, 0x18]
  | _ => .error .unreachable

def encodePriorityArrayValueBytes (state : ObjectState) : Octets :=
  state.priorityArray.toList.zipIdx.flatMap fun entry =>
    [0x09, UInt8.ofNat (entry.2 + 1)] ++
      match entry.1 with
      | some value => [0x1D] ++ C.encodeAppReal value
      | none => [0x19, 0x00]

def aoAvLoProps : List UInt16 := [36, 75, 77, 79, 81, 85, 87, 103, 104, 111, 117, 119]

def objectName (state : ObjectState) : String :=
  if state.objectType = .analogOutput then "AO-" ++ toString state.inst
  else if state.objectType = .analogValue then "AV-" ++ toString state.inst
  else if state.objectType = .lightingOutput then "LO-" ++ toString state.inst
  else "?" ++ C.objectTypeDebug state.objectType ++ "-" ++ toString state.inst

/-- The value of a property of one of the other objects. -/
def objectValueBytes (state : ObjectState) (propId : UInt16) : Except Panic Octets :=
  match propId with
  | 36 => .ok (C.encodeAppEnumerated 0)
  | 75 => .ok (C.encodeAppObjectId ⟨state.objectType, state.inst⟩)
  | 77 => .ok (C.encodeAppCharacterString (objectName C state))
  | 79 => .ok (C.encodeAppEnumerated state.objectType.raw)
  | 81 => .ok (C.encodeAppBoolean state.outOfService)
  | 85 => .ok (C.encodeAppReal state.presentValue)
  | 87 => .ok (encodePriorityArrayValueBytes C state)
  | 103 => .ok (C.encodeAppEnumerated 0)
  | 104 => .ok (C.encodeAppReal state.relinquishDefault)
  | 111 => .ok (C.encodeAppBitString 4 [if state.outOfService then 1 else 0])
  | 117 => .ok (C.encodeAppEnumerated (if state.objectType = .lightingOutput then 105 else 95))
  | 119 => .ok (C.encodeAppEnumerated 0)
  | _ => .error .unreachable

/-! ## Handlers -/

def handleReadPropertyAoAvLo (cache : Cache) (state : ObjectState) (propId : UInt16)
    (invokeId : UInt8) : Except Panic (Cache × List Sent) := do
  if propId ∉ aoAvLoProps then
    return (cache, sendError C config msg invokeId .readProperty .property .unknownProperty)
  else
    let valueBytes ← objectValueBytes C state propId
    let rpApdu := buildRpAckForOid C invokeId ⟨state.objectType, state.inst⟩ propId valueBytes
    if rpApdu.isEmpty then
      return (cache, [])
    else
      return cacheAndSend C cache invokeId (replyNpdu config msg rpApdu)

/-- The part of `handle_read_property` that answers for the Device object. An
Error PDU is cached here, unlike elsewhere. -/
def readDevice (cache : Cache) (propId : UInt16) (invokeId : UInt8) :
    Except Panic (Cache × List Sent) := do
  if propId ∉ knownProps then
    match C.encodeApdu (.error ⟨invokeId, .readProperty, .property, .unknownProperty, []⟩) with
    | none => return (cache, [])
    | some payload => return cacheAndSend C cache invokeId (replyNpdu config msg payload)
  else
    let valueBytes ← deviceValueBytes config propId
    let rpApdu := buildReadPropertyAck C invokeId config.deviceId propId valueBytes
    if rpApdu.isEmpty then
      return (cache, [])
    else
      return cacheAndSend C cache invokeId (replyNpdu config msg rpApdu)

/-- `handle_read_property` once the cache has no answer. A request whose object
identifier cannot be parsed is taken to mean the Device. -/
def readUncached (cache : Cache) (objects : Objects) (invokeId : UInt8) :
    Except Panic (Cache × List Sent) := do
  match ← readPropId msg.apdu with
  | none => return (cache, [])
  | some propId =>
    let requestOid ← parseOidFromRequest C msg.apdu
    match C.oidNew .device config.deviceId with
    | none => return (cache, [])
    | some deviceOid =>
      match requestOid with
      | none => readDevice C config msg cache propId invokeId
      | some oid =>
        if oid = deviceOid then
          readDevice C config msg cache propId invokeId
        else
          match objects oid with
          | some state => handleReadPropertyAoAvLo C config msg cache state propId invokeId
          | none =>
            return (cache, sendError C config msg invokeId .readProperty .object .unknownObject)

def handleReadProperty (cache : Cache) (objects : Objects) :
    Except Panic (Cache × List Sent) := do
  if msg.apdu.length < 11 then
    return (cache, [])
  else
    let invokeId ← index msg.apdu 2
    match cache invokeId with
    | some buf => return (cache, [.cached buf])
    | none => readUncached C config msg cache objects invokeId

def handleSubscribeCov (transportMac : Octets) : Except Panic (List Sent) := do
  if msg.apdu.length < 3 then
    return []
  else
    let invokeId ← index msg.apdu 2
    let response := buildSubscribeCovAck invokeId
    if response.isEmpty then
      return []
    else
      return sendUnicast C (unicastNpdu msg ⟨1, transportMac⟩ response)

/-- What a write to Present_Value that was parsed does to the object. -/
def ObjectState.writePresentValue (state : ObjectState) (value : Option F32) (priority : UInt8) :
    ObjectState :=
  if 1 ≤ priority ∧ priority ≤ 16 then state.updatePriority priority.toNat value
  else
    match value with
    | some v => { state with presentValue := v }
    | none => state

/-- What a write to Out_Of_Service does: nothing unless its value can be read. -/
def writeOutOfService (state : ObjectState) (apdu : Octets) (propEnd : Nat) :
    Except Panic ObjectState := do
  match C.decodeTag apdu propEnd with
  | none => return state
  | some (tag, _) =>
    if tag.isContext 2 ∧ tag.length = 1 then
      if propEnd + 1 < apdu.length then
        return { state with outOfService := (← index apdu (propEnd + 1)) ≠ 0 }
      else
        return state
    else
      return state

/-- `handle_write_property` once the object is found. -/
def writeObject (objects : Objects) (invokeId : UInt8) (oid : ObjectIdentifier)
    (state : ObjectState) (propId : UInt16) (propEnd : Nat) :
    Except Panic (Objects × List Sent) := do
  if propId = 85 then
    match ← parseWritePropertyValue C msg.apdu propEnd with
    | none =>
      return (objects,
        sendError C config msg invokeId .writeProperty .property .writeAccessDenied)
    | some (value, priority) =>
      return (Function.update objects oid (some (state.writePresentValue value priority)),
        sendSimpleAck C config msg invokeId 0x0F)
  else if propId = 81 then
    let state ← writeOutOfService C state msg.apdu propEnd
    return (Function.update objects oid (some state), sendSimpleAck C config msg invokeId 0x0F)
  else
    return (objects, sendError C config msg invokeId .writeProperty .property .writeAccessDenied)

def handleWriteProperty (objects : Objects) : Except Panic (Objects × List Sent) := do
  if msg.apdu.length < 14 then
    return (objects, [])
  else
    let invokeId ← index msg.apdu 2
    match ← parseOidFromRequest C msg.apdu with
    | none => return (objects, [])
    | some requestOid =>
      match C.oidNew .device config.deviceId with
      | none => return (objects, [])
      | some deviceOid =>
        if requestOid = deviceOid then
          return (objects,
            sendError C config msg invokeId .writeProperty .property .writeAccessDenied)
        else
          match ← writePropId msg.apdu with
          | none => return (objects, [])
          | some (propId, propEnd) =>
            match objects requestOid with
            | none =>
              return (objects,
                sendError C config msg invokeId .writeProperty .object .unknownObject)
            | some state =>
              writeObject C config msg objects invokeId requestOid state propId propEnd

/-! ## The task -/

structure Device where
  objects : Objects
  apduCache : Cache

/-- The objects that the task starts with. -/
def Device.start : Except Panic Device := do
  match C.oidNew .analogOutput 1 with
  | none => .error (.expect "AO OID")
  | some ao =>
    match C.oidNew .analogValue 1 with
    | none => .error (.expect "AV OID")
    | some av =>
      match C.oidNew .lightingOutput 1 with
      | none => .error (.expect "LO OID")
      | some lo =>
        let objects := Function.update (fun _ => none) ao (some (makeObject .analogOutput 1))
        let objects := Function.update objects av (some (makeObject .analogValue 1))
        let objects := Function.update objects lo (some (makeObject .lightingOutput 1))
        return ⟨objects, fun _ => none⟩

/-- PDU type and service choice of an APDU of at least two octets. -/
def pduTypeAndService (apdu : Octets) : Except Panic (UInt8 × UInt8) := do
  let first ← index apdu 0
  let pduType := first >>> 4
  let segmented := pduType = 0 ∧ apdu.length > 2 ∧ first &&& 0x08 ≠ 0
  if pduType = 0 ∧ apdu.length > 3 then
    if segmented ∧ apdu.length > 5 then
      return (pduType, ← index apdu 5)
    else
      return (pduType, ← index apdu 3)
  else
    return (pduType, ← index apdu 1)

/-- The body of the task's loop. -/
def Device.handle (transportMac : Octets) (d : Device) : Except Panic (Device × List Sent) := do
  if msg.apdu.length < 2 then
    return (d, [])
  else
    match ← pduTypeAndService msg.apdu with
    | (0x01, 0x08) => return (d, sendIam C config)
    | (0x00, 0x0C) =>
      let (apduCache, sent) ← handleReadProperty C config msg d.apduCache d.objects
      return ({ d with apduCache }, sent)
    | (0x00, 0x05) =>
      let sent ← handleSubscribeCov C msg transportMac
      return (d, sent)
    | (0x00, 0x0F) =>
      let (objects, sent) ← handleWriteProperty C config msg d.objects
      return ({ d with objects }, sent)
    | _ => return (d, [])

end Handlers

theorem mem_sendUnicast {C : Codec} {npdu : Npdu} {frame : Sent} :
    frame ∈ sendUnicast C npdu ↔ ∃ buf, C.encodeNpdu npdu = some buf ∧ frame = .reply npdu buf := by
  unfold sendUnicast
  cases C.encodeNpdu npdu <;> simp

/-- What an Error reply consists of. -/
theorem mem_sendError {C : Codec} {config : LocalDeviceConfig} {msg : ReceivedApdu}
    {invokeId : UInt8} {serviceChoice : ConfirmedServiceChoice} {errorClass : ErrorClass}
    {errorCode : ErrorCode} {frame : Sent}
    (h : frame ∈ sendError C config msg invokeId serviceChoice errorClass errorCode) :
    ∃ payload buf,
      C.encodeApdu (.error ⟨invokeId, serviceChoice, errorClass, errorCode, []⟩) = some payload ∧
      C.encodeNpdu (replyNpdu config msg payload) = some buf ∧
      frame = .reply (replyNpdu config msg payload) buf := by
  unfold sendError at h
  split at h
  · cases h
  · rename_i payload hpayload
    obtain ⟨buf, hbuf, hframe⟩ := mem_sendUnicast.mp h
    exact ⟨payload, buf, hpayload, hbuf, hframe⟩

/-- A ReadProperty is too short, has its answer in the cache, or is answered
and filed. -/
theorem handleReadProperty_cases {C : Codec} {config : LocalDeviceConfig} {msg : ReceivedApdu}
    {cache cache' : Cache} {objects : Objects} {sent : List Sent}
    (h : handleReadProperty C config msg cache objects = .ok (cache', sent)) :
    (msg.apdu.length < 11 ∧ cache' = cache ∧ sent = []) ∨
    ∃ id, 11 ≤ msg.apdu.length ∧ msg.apdu[2]? = some id ∧
      ((∃ buf, cache id = some buf ∧ cache' = cache ∧ sent = [.cached buf]) ∨
        cache id = none ∧ readUncached C config msg cache objects id = .ok (cache', sent)) := by
  unfold handleReadProperty at h
  split at h
  · rename_i hlen
    cases h
    exact .inl ⟨hlen, rfl, rfl⟩
  · rename_i hlen
    obtain ⟨id, hid, h⟩ := ok_of_bind h
    refine .inr ⟨id, by omega, index_eq_ok_iff.mp hid, ?_⟩
    split at h
    · rename_i buf hhit
      cases h
      exact .inl ⟨buf, hhit, rfl, rfl⟩
    · rename_i hmiss
      exact .inr ⟨hmiss, h⟩

/-- PDU type and service choice of what the device answers: Who-Is, ReadProperty,
SubscribeCOV and WriteProperty. -/
def services : List (UInt8 × UInt8) := [(0x01, 0x08), (0x00, 0x0C), (0x00, 0x05), (0x00, 0x0F)]

/-- What the device makes of a message, by the service that it takes it for. -/
inductive Handled (C : Codec) (config : LocalDeviceConfig) (msg : ReceivedApdu)
    (transportMac : Octets) (d : Device) : Device × List Sent → Prop
  | short (length : msg.apdu.length < 2) : Handled C config msg transportMac d (d, [])
  | unhandled {service : UInt8 × UInt8} (h : pduTypeAndService msg.apdu = .ok service)
      (other : service ∉ services) : Handled C config msg transportMac d (d, [])
  | whoIs (service : pduTypeAndService msg.apdu = .ok (0x01, 0x08)) :
      Handled C config msg transportMac d (d, sendIam C config)
  | readProperty {apduCache : Cache} {sent : List Sent} (length : 2 ≤ msg.apdu.length)
      (service : pduTypeAndService msg.apdu = .ok (0x00, 0x0C))
      (read : handleReadProperty C config msg d.apduCache d.objects = .ok (apduCache, sent)) :
      Handled C config msg transportMac d ({ d with apduCache }, sent)
  | subscribeCov {sent : List Sent} (length : 2 ≤ msg.apdu.length)
      (service : pduTypeAndService msg.apdu = .ok (0x00, 0x05))
      (subscribe : handleSubscribeCov C msg transportMac = .ok sent) :
      Handled C config msg transportMac d (d, sent)
  | writeProperty {objects : Objects} {sent : List Sent} (length : 2 ≤ msg.apdu.length)
      (service : pduTypeAndService msg.apdu = .ok (0x00, 0x0F))
      (write : handleWriteProperty C config msg d.objects = .ok (objects, sent)) :
      Handled C config msg transportMac d ({ d with objects }, sent)

theorem Device.handle_cases {C : Codec} {config : LocalDeviceConfig} {msg : ReceivedApdu}
    {transportMac : Octets} {d : Device} {answer : Device × List Sent}
    (h : d.handle C config msg transportMac = .ok answer) :
    Handled C config msg transportMac d answer := by
  unfold handle at h
  split at h
  · rename_i hlen
    cases h
    exact .short hlen
  rename_i hlen
  have hlen : 2 ≤ msg.apdu.length := by omega
  obtain ⟨service, hservice, h⟩ := ok_of_bind h
  split at h
  · cases h
    exact .whoIs hservice
  · obtain ⟨_, hread, h⟩ := ok_of_bind h
    cases h
    exact .readProperty hlen hservice hread
  · obtain ⟨_, hsubscribe, h⟩ := ok_of_bind h
    cases h
    exact .subscribeCov hlen hservice hsubscribe
  · obtain ⟨_, hwrite, h⟩ := ok_of_bind h
    cases h
    exact .writeProperty hlen hservice hwrite
  · cases h
    exact .unhandled hservice (by simp_all [services])

theorem Device.start_cases {C : Codec} {d : Device} (h : Device.start C = .ok d) :
    ∃ ao av lo, C.oidNew .analogOutput 1 = some ao ∧ C.oidNew .analogValue 1 = some av ∧
      C.oidNew .lightingOutput 1 = some lo ∧ d.apduCache = (fun _ => none) ∧ d.objects =
        Function.update (Function.update (Function.update (fun _ => none)
          ao (some (makeObject .analogOutput 1))) av (some (makeObject .analogValue 1)))
          lo (some (makeObject .lightingOutput 1)) := by
  unfold start at h
  split at h
  · cases h
  rename_i ao hao
  split at h
  · cases h
  rename_i av hav
  split at h
  · cases h
  rename_i lo hlo
  obtain rfl := Except.ok.inj h
  exact ⟨ao, av, lo, hao, hav, hlo, rfl, rfl⟩

/-- The types of the objects that a device starts with. -/
def startTypes : List ObjectType := [.analogOutput, .analogValue, .lightingOutput]

/-- What holds of every object as it is made holds of all objects of a device that
starts. -/
theorem Device.start_forall {C : Codec} {d : Device} (h : Device.start C = .ok d)
    {P : ObjectIdentifier → ObjectState → Prop}
    (hP : ∀ oid, ∀ objectType ∈ startTypes, C.oidNew objectType 1 = some oid →
      P oid (makeObject objectType 1)) :
    ∀ oid state, d.objects oid = some state → P oid state := by
  obtain ⟨ao, av, lo, hao, hav, hlo, -, hobjects⟩ := Device.start_cases h
  have hnone : ∀ oid state, (none : Option ObjectState) = some state → P oid state := nofun
  rw [hobjects]
  have hwithAo := (forall_stored_iff hnone).mpr (hP ao _ (by decide) hao)
  have hwithAv := (forall_stored_iff hwithAo).mpr (hP av _ (by decide) hav)
  exact (forall_stored_iff hwithAv).mpr (hP lo _ (by decide) hlo)

/-- The device that `start_router` makes of the default configuration. -/
def defaultDevice : LocalDeviceConfig where
  deviceId := 4194303
  vendorId := 15
  deviceName := "BACnet-Bridge"
  transportMode := "sc"
  localNetwork := 65520
  localMac := [0x01, 0x02]

/-- The task handles one message, or dies of it. -/
def Device.step (C : Codec) (config : LocalDeviceConfig) (transportMac : Octets) (d : Device)
    (msg : ReceivedApdu) : Option Device :=
  (d.handle C config msg transportMac).toOption.map (·.1)

theorem Device.step_some {C : Codec} {config : LocalDeviceConfig} {transportMac : Octets}
    {d d' : Device} {msg : ReceivedApdu} (h : d.step C config transportMac msg = some d') :
    ∃ sent, d.handle C config msg transportMac = .ok (d', sent) := by
  unfold step at h
  cases hhandle : d.handle C config msg transportMac with
  | error e => simp [hhandle, Except.toOption] at h
  | ok answer =>
    obtain rfl : answer.1 = d' := by simpa [hhandle, Except.toOption] using h
    exact ⟨answer.2, rfl⟩

end BacnetBridge
