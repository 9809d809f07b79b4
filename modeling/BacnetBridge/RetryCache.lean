import BacnetBridge.Dispatch
import BacnetBridge.Runs

/-! The retry cache: when an answer out of it is the answer that the request
would get without it. -/
namespace BacnetBridge

/-! ## Answers -/

def Sent.AddressedTo (msg : ReceivedApdu) : Sent → Prop
  | .reply npdu _ => npdu.destination = replyDestination msg
  | _ => False

/-- The cache has no say in what is sent to the requester. At most the one reply
is filed under the invoke id. -/
inductive Files (msg : ReceivedApdu) (id : UInt8) :
    (Cache → Except Panic (Cache × List Sent)) → Prop
  | dies (e : Panic) : Files msg id fun _ => .error e
  | keeps (sent : List Sent) (h : ∀ frame ∈ sent, frame.AddressedTo msg) :
      Files msg id fun cache => .ok (cache, sent)
  | files (npdu : Npdu) (buf : Octets) (h : (Sent.reply npdu buf).AddressedTo msg) :
      Files msg id fun cache => .ok (Function.update cache id (some buf), [.reply npdu buf])

/-- One answer of a handler tells all of them, whatever the cache. -/
theorem Files.answer {msg : ReceivedApdu} {id : UInt8}
    {f : Cache → Except Panic (Cache × List Sent)} (hf : Files msg id f) {cache cache' : Cache}
    {sent : List Sent} (h : f cache = .ok (cache', sent)) :
    (∀ frame ∈ sent, frame.AddressedTo msg) ∧
      ((cache' = cache ∧ ∀ c, f c = .ok (c, sent)) ∨
        ∃ npdu buf, sent = [.reply npdu buf] ∧ cache' = Function.update cache id (some buf) ∧
          ∀ c, f c = .ok (Function.update c id (some buf), [.reply npdu buf])) := by
  cases hf with
  | dies e => cases h
  | keeps sent hsent =>
    cases h
    exact ⟨hsent, .inl ⟨rfl, fun _ => rfl⟩⟩
  | files npdu buf hreply =>
    cases h
    refine ⟨fun frame hframe => ?_, .inr ⟨npdu, buf, rfl, rfl, fun _ => rfl⟩⟩
    obtain rfl := List.mem_singleton.mp hframe
    exact hreply

section

variable (C : Codec) (config : LocalDeviceConfig) (msg : ReceivedApdu)

theorem addressed_sendError {invokeId : UInt8} {service : ConfirmedServiceChoice}
    {errorClass : ErrorClass} {errorCode : ErrorCode} {frame : Sent}
    (h : frame ∈ sendError C config msg invokeId service errorClass errorCode) :
    frame.AddressedTo msg := by
  obtain ⟨payload, buf, -, -, rfl⟩ := mem_sendError h
  exact rfl

theorem files_nothing (id : UInt8) : Files msg id fun cache => .ok (cache, []) :=
  .keeps [] fun _ h => by cases h

theorem files_cacheAndSend (id : UInt8) (payload : Octets) :
    Files msg id fun cache => .ok (cacheAndSend C cache id (replyNpdu config msg payload)) := by
  unfold cacheAndSend
  cases C.encodeNpdu (replyNpdu config msg payload) with
  | none => exact files_nothing ..
  | some buf => exact .files _ buf rfl

theorem files_ack (id : UInt8) (rpApdu : Octets) :
    Files msg id fun cache => if rpApdu.isEmpty then .ok (cache, [])
      else .ok (cacheAndSend C cache id (replyNpdu config msg rpApdu)) := by
  cases rpApdu.isEmpty with
  | true => exact files_nothing ..
  | false => exact files_cacheAndSend ..

theorem files_handleReadPropertyAoAvLo (state : ObjectState) (propId : UInt16) (id : UInt8) :
    Files msg id fun cache =>
      handleReadPropertyAoAvLo C config msg cache state propId id := by
  unfold handleReadPropertyAoAvLo
  by_cases hknown : propId ∉ aoAvLoProps
  · simp only [if_pos hknown]
    exact .keeps _ fun _ => addressed_sendError C config msg
  · simp only [if_neg hknown]
    cases objectValueBytes C state propId with
    | error e => exact .dies e
    | ok valueBytes =>
      exact files_ack C config msg id
        (buildRpAckForOid C id ⟨state.objectType, state.inst⟩ propId valueBytes)

theorem files_readDevice (propId : UInt16) (id : UInt8) :
    Files msg id fun cache => readDevice C config msg cache propId id := by
  unfold readDevice
  by_cases hknown : propId ∉ knownProps
  · simp only [if_pos hknown]
    cases C.encodeApdu (.error ⟨id, .readProperty, .property, .unknownProperty, []⟩) with
    | none => exact files_nothing ..
    | some payload => exact files_cacheAndSend ..
  · simp only [if_neg hknown]
    cases deviceValueBytes config propId with
    | error e => exact .dies e
    | ok valueBytes =>
      exact files_ack C config msg id
        (buildReadPropertyAck C id config.deviceId propId valueBytes)

theorem files_readUncached (objects : Objects) (id : UInt8) :
    Files msg id fun cache => readUncached C config msg cache objects id := by
  unfold readUncached
  cases readPropId msg.apdu with
  | error e => exact .dies e
  | ok found =>
    cases found with
    | none => exact files_nothing ..
    | some propId =>
      cases parseOidFromRequest C msg.apdu with
      | error e => exact .dies e
      | ok requestOid =>
        cases C.oidNew .device config.deviceId with
        | none => exact files_nothing ..
        | some deviceOid =>
          cases requestOid with
          | none => exact files_readDevice ..
          | some oid =>
            by_cases hdevice : oid = deviceOid
            · simp only [bind, Except.bind, if_pos hdevice]
              exact files_readDevice ..
            · simp only [bind, Except.bind, if_neg hdevice]
              cases objects oid with
              | none => exact .keeps _ fun _ => addressed_sendError C config msg
              | some state => exact files_handleReadPropertyAoAvLo ..

end

/-! ## Requests -/

/-- What a read of another object finds: the name it answers with, and the value. -/
def reading (C : Codec) (objects : Objects) (oid : ObjectIdentifier) (propId : UInt16) :
    Option (ObjectIdentifier × Except Panic Octets) :=
  (objects oid).map fun state =>
    (⟨state.objectType, state.inst⟩, objectValueBytes C state propId)

/-- One requester asks for one property of one object, which reads the same both times. -/
structure SameQuestion (C : Codec) (earlier : ReceivedApdu) (objects₀ : Objects)
    (msg : ReceivedApdu) (objects : Objects) : Prop where
  requester : replyDestination earlier = replyDestination msg
  property : readPropId earlier.apdu = readPropId msg.apdu
  target : parseOidFromRequest C earlier.apdu = parseOidFromRequest C msg.apdu
  value : ∀ oid propId, parseOidFromRequest C msg.apdu = .ok (some oid) →
    readPropId msg.apdu = .ok (some propId) →
    reading C objects₀ oid propId = reading C objects oid propId

section

variable {C : Codec} {config : LocalDeviceConfig} {earlier msg : ReceivedApdu}

theorem replyNpdu_congr (h : replyDestination earlier = replyDestination msg) :
    replyNpdu config earlier = replyNpdu config msg := by
  funext payload
  simp [replyNpdu, unicastNpdu, h]

theorem sendError_congr (h : replyDestination earlier = replyDestination msg) :
    sendError C config earlier = sendError C config msg := by
  unfold sendError
  rw [replyNpdu_congr h]

theorem readDevice_congr (h : replyDestination earlier = replyDestination msg) :
    readDevice C config earlier = readDevice C config msg := by
  unfold readDevice
  rw [replyNpdu_congr h]

theorem handleReadPropertyAoAvLo_congr (h : replyDestination earlier = replyDestination msg)
    {state₀ state : ObjectState} {propId : UInt16}
    (hname : (⟨state₀.objectType, state₀.inst⟩ : ObjectIdentifier) = ⟨state.objectType, state.inst⟩)
    (hvalue : objectValueBytes C state₀ propId = objectValueBytes C state propId) (cache : Cache)
    (id : UInt8) : handleReadPropertyAoAvLo C config earlier cache state₀ propId id =
      handleReadPropertyAoAvLo C config msg cache state propId id := by
  unfold handleReadPropertyAoAvLo
  rw [replyNpdu_congr h, sendError_congr h, hname, hvalue]

theorem readUncached_congr {objects₀ objects : Objects}
    (h : SameQuestion C earlier objects₀ msg objects) (cache : Cache) (id : UInt8) :
    readUncached C config earlier cache objects₀ id =
      readUncached C config msg cache objects id := by
  unfold readUncached
  rw [h.property, h.target, readDevice_congr h.requester, sendError_congr h.requester]
  cases hprop : readPropId msg.apdu with
  | error e => rfl
  | ok found =>
    cases found with
    | none => rfl
    | some propId =>
      cases htarget : parseOidFromRequest C msg.apdu with
      | error e => rfl
      | ok requestOid =>
        cases requestOid with
        | none => rfl
        | some oid =>
          have hread := h.value oid propId htarget hprop
          cases hfound₀ : objects₀ oid with
          | none =>
            cases hfound : objects oid with
            | none => simp only [bind, Except.bind, hfound₀, hfound]
            | some state => simp [reading, hfound₀, hfound] at hread
          | some state₀ =>
            cases hfound : objects oid with
            | none => simp [reading, hfound₀, hfound] at hread
            | some state =>
              have hread : (⟨state₀.objectType, state₀.inst⟩ : ObjectIdentifier) =
                    ⟨state.objectType, state.inst⟩ ∧
                  objectValueBytes C state₀ propId = objectValueBytes C state propId := by
                simpa only [reading, hfound₀, hfound, Option.map_some, Option.some.injEq,
                  Prod.mk.injEq] using hread
              simp only [bind, Except.bind, hfound₀, hfound,
                handleReadPropertyAoAvLo_congr h.requester hread.1 hread.2]

end

/-! ## Runs -/

def IsReadProperty (msg : ReceivedApdu) : Prop :=
  2 ≤ msg.apdu.length ∧ pduTypeAndService msg.apdu = .ok (0x00, 0x0C)

/-- The invoke id of a confirmed request. -/
def invokeIdOf : Octets → Option UInt8
  | first :: _ :: invokeId :: _ => if first >>> 4 = 0 then some invokeId else none
  | _ => none

/-- The latest request of the same requester under the same invoke id had the
very octets of this one. Messages come newest first. -/
def Retransmission (history : List ReceivedApdu) (msg : ReceivedApdu) : Prop :=
  ∃ latest, latest.apdu = msg.apdu ∧ history.find? (fun earlier =>
    earlier.sourceMac = msg.sourceMac ∧ earlier.sourceNetwork = msg.sourceNetwork ∧
      invokeIdOf earlier.apdu = invokeIdOf msg.apdu) = some latest

/-- The device with the messages it handled and, for every entry of its cache,
the request that the entry was made for and the objects as they were. -/
structure Session where
  device : Device
  history : List ReceivedApdu
  origins : UInt8 → Option (ReceivedApdu × Objects)

def Session.start (d : Device) : Session := ⟨d, [], fun _ => none⟩

def Session.step (C : Codec) (config : LocalDeviceConfig) (transportMac : Octets) (s : Session)
    (msg : ReceivedApdu) : Option Session :=
  (s.device.step C config transportMac msg).map fun device =>
    { device
      history := msg :: s.history
      origins := fun id =>
        if (s.device.apduCache id).isNone ∧ (device.apduCache id).isSome then
          some (msg, s.device.objects)
        else s.origins id }

/-- What is sent is what would be sent with nothing in the cache, to the requester. -/
def Fresh (C : Codec) (config : LocalDeviceConfig) (transportMac : Octets) (d : Device)
    (msg : ReceivedApdu) : Prop :=
  ∀ d' sent, d.handle C config msg transportMac = .ok (d', sent) →
    ∃ cache fresh, handleReadProperty C config msg (fun _ => none) d.objects = .ok (cache, fresh) ∧
      sent.map Sent.frame = fresh.map Sent.frame ∧ ∀ frame ∈ fresh, frame.AddressedTo msg

/-- The cache has nothing under the invoke id of the request, or what it has was
made for the same question, which reads the same as then. -/
def Unshared (C : Codec) (s : Session) (msg : ReceivedApdu) : Prop :=
  ∀ id, msg.apdu[2]? = some id → s.device.apduCache id = none ∨
    ∃ earlier objects, s.origins id = some (earlier, objects) ∧
      SameQuestion C earlier objects msg s.device.objects

/-- Every entry is the answer to the request it was made for. -/
def Session.Recorded (C : Codec) (config : LocalDeviceConfig) (s : Session) : Prop :=
  ∀ id buf, s.device.apduCache id = some buf → ∃ earlier objects npdu,
    s.origins id = some (earlier, objects) ∧ ∀ cache,
      readUncached C config earlier cache objects id =
        .ok (Function.update cache id (some buf), [.reply npdu buf])

section

variable {C : Codec} {config : LocalDeviceConfig} {transportMac : Octets} {msg : ReceivedApdu}

theorem handle_readProperty {d d' : Device} {sent : List Sent} (hread : IsReadProperty msg)
    (h : d.handle C config msg transportMac = .ok (d', sent)) :
    d'.objects = d.objects ∧
      handleReadProperty C config msg d.apduCache d.objects = .ok (d'.apduCache, sent) := by
  obtain ⟨hlen, hservice⟩ := hread
  rw [Device.handle_of_service hlen hservice] at h
  obtain ⟨_, hread, h⟩ := ok_of_bind h
  cases h
  exact ⟨rfl, hread⟩

theorem handle_other {d d' : Device} {sent : List Sent} (hread : ¬ IsReadProperty msg)
    (h : d.handle C config msg transportMac = .ok (d', sent)) : d'.apduCache = d.apduCache := by
  cases Device.handle_cases h with
  | readProperty hlen hservice => exact absurd ⟨hlen, hservice⟩ hread
  | short | unhandled | whoIs | subscribeCov | writeProperty => rfl

theorem handleReadProperty_uncached {objects : Objects} {id : UInt8}
    (hlen : 11 ≤ msg.apdu.length) (hid : msg.apdu[2]? = some id) :
    handleReadProperty C config msg (fun _ => none) objects =
      readUncached C config msg (fun _ => none) objects id := by
  unfold handleReadProperty
  rw [if_neg (by omega), index_eq_ok_iff.mpr hid]
  rfl

/-- A message leaves the cache as it is, or files its answer where there was none. -/
theorem handle_cache {d d' : Device} {sent : List Sent}
    (h : d.handle C config msg transportMac = .ok (d', sent)) :
    d'.apduCache = d.apduCache ∨ ∃ id npdu buf, d.apduCache id = none ∧
      d'.apduCache = Function.update d.apduCache id (some buf) ∧ ∀ cache,
        readUncached C config msg cache d.objects id =
          .ok (Function.update cache id (some buf), [.reply npdu buf]) := by
  by_cases hread : IsReadProperty msg
  · obtain ⟨-, h⟩ := handle_readProperty hread h
    rcases handleReadProperty_cases h with ⟨-, hsame, -⟩ | ⟨id, -, -, ⟨_, -, hsame, -⟩ | ⟨hmiss, h⟩⟩
    · exact .inl hsame
    · exact .inl hsame
    · obtain ⟨-, ⟨hsame, -⟩ | ⟨npdu, buf, -, hfiled, hany⟩⟩ :=
        (files_readUncached C config msg d.objects id).answer h
      · exact .inl hsame
      · exact .inr ⟨id, npdu, buf, hmiss, hfiled, hany⟩
  · exact .inl (handle_other hread h)

theorem session_step {s s' : Session} (h : s.step C config transportMac msg = some s') :
    ∃ sent, s.device.handle C config msg transportMac = .ok (s'.device, sent) ∧
      (∀ id buf, s.device.apduCache id = some buf → s'.origins id = s.origins id) ∧
      ∀ id buf, s.device.apduCache id = none → s'.device.apduCache id = some buf →
        s'.origins id = some (msg, s.device.objects) := by
  unfold Session.step at h
  obtain ⟨d', hstep, rfl⟩ := Option.map_eq_some_iff.mp h
  obtain ⟨sent, hhandle⟩ := Device.step_some hstep
  refine ⟨sent, hhandle, ?_, ?_⟩
  · intro id buf hhit
    simp [hhit]
  · intro id buf hmiss hfiled
    simp only at hfiled
    simp [hmiss, hfiled]

theorem recorded_start {d : Device} (h : Device.start C = .ok d) :
    (Session.start d).Recorded C config := by
  obtain ⟨_, _, _, -, -, -, hcache, -⟩ := Device.start_cases h
  intro id buf hhit
  rw [Session.start, hcache] at hhit
  cases hhit

theorem recorded_step {s s' : Session} (hs : s.Recorded C config)
    (h : s.step C config transportMac msg = some s') : s'.Recorded C config := by
  obtain ⟨sent, hhandle, hkept, hnew⟩ := session_step h
  intro id buf hhit
  cases hbefore : s.device.apduCache id with
  | some buf₀ =>
    rw [hkept id buf₀ hbefore]
    rcases handle_cache hhandle with hsame | ⟨filed, _, _, hmiss, hfiled, -⟩
    · exact hs id buf (hsame ▸ hhit)
    · have hne : id ≠ filed := by
        rintro rfl
        cases hbefore.symm.trans hmiss
      rw [hfiled, Function.update_of_ne hne] at hhit
      exact hs id buf hhit
  | none =>
    rcases handle_cache hhandle with hsame | ⟨filed, npdu, buf₁, -, hfiled, hany⟩
    · cases hbefore.symm.trans (hsame ▸ hhit)
    · by_cases heq : id = filed
      · subst heq
        have hbuf := hhit
        rw [hfiled, Function.update_self] at hbuf
        obtain rfl := Option.some.inj hbuf
        exact ⟨msg, s.device.objects, npdu, hnew id buf₁ hbefore hhit, hany⟩
      · rw [hfiled, Function.update_of_ne heq] at hhit
        cases hbefore.symm.trans hhit

/-- An answer out of the cache is fresh if the question it was made for is this one. -/
theorem fresh_of_unshared {s : Session} (hs : s.Recorded C config) (hread : IsReadProperty msg)
    (h : Unshared C s msg) : Fresh C config transportMac s.device msg := by
  intro d' sent hhandle
  obtain ⟨-, hhandle⟩ := handle_readProperty hread hhandle
  rcases handleReadProperty_cases hhandle with
    ⟨hlen, -, rfl⟩ | ⟨id, hlen, hid, ⟨buf, hhit, -, rfl⟩ | ⟨-, hmiss⟩⟩
  · refine ⟨fun _ => none, [], ?_, rfl, fun _ hframe => by cases hframe⟩
    unfold handleReadProperty
    rw [if_pos hlen]
    rfl
  · obtain hnone | ⟨earlier, objects, horigin, hsame⟩ := h id hid
    · cases hhit.symm.trans hnone
    obtain ⟨_, _, npdu, horigin', hany⟩ := hs id buf hhit
    cases horigin.symm.trans horigin'
    have hfresh : readUncached C config msg (fun _ => none) s.device.objects id = _ :=
      (readUncached_congr hsame _ id).symm.trans (hany _)
    obtain ⟨haddressed, -⟩ :=
      (files_readUncached C config msg s.device.objects id).answer hfresh
    exact ⟨_, _, (handleReadProperty_uncached hlen hid).trans hfresh, rfl, haddressed⟩
  · obtain ⟨haddressed, ⟨-, hany⟩ | ⟨npdu, buf, rfl, -, hany⟩⟩ :=
      (files_readUncached C config msg s.device.objects id).answer hmiss
    · exact ⟨_, _, (handleReadProperty_uncached hlen hid).trans (hany _), rfl, haddressed⟩
    · exact ⟨_, _, (handleReadProperty_uncached hlen hid).trans (hany _), rfl, haddressed⟩

/-- In a run in which no request but a retransmission meets the answer to another
question, every ReadProperty that is no retransmission gets a fresh answer. -/
theorem reads_are_fresh {d : Device} (h : Device.start C = .ok d) (msgs : List ReceivedApdu)
    (hunshared : Runs.Each (Session.step C config transportMac) (.start d) msgs fun s msg =>
      IsReadProperty msg → Retransmission s.history msg ∨ Unshared C s msg) :
    Runs.Each (Session.step C config transportMac) (.start d) msgs fun s msg =>
      IsReadProperty msg → Retransmission s.history msg ∨
        Fresh C config transportMac s.device msg := by
  have hrecorded : Runs.Always (Session.step C config transportMac) (.start d) msgs
      (Session.Recorded C config) :=
    Runs.always_of_step (fun _ _ _ hs hstep => recorded_step hs hstep) (recorded_start h) msgs
  refine hunshared.mono_of_always hrecorded ?_
  intro s msg hs hok hread
  exact (hok hread).imp_right (fresh_of_unshared hs hread)

end

/-- A ReadProperty of the Device object. -/
def deviceRead (sourceMac : Octets) (invokeId propId : UInt8) : ReceivedApdu where
  apdu := [0x00, 0x05, invokeId, 0x0C, 0x0C, 0x02, 0x3F, 0xFF, 0xFF, 0x19, propId]
  sourceMac
  sourceNetwork := none

/-- Two clients, each under an invoke id of its own. The first asks once more in other
octets, and is answered out of the cache. -/
def ownReads : List ReceivedApdu :=
  [deviceRead [0x01] 1 11, deviceRead [0x02] 2 76,
    { deviceRead [0x01] 1 11 with
      apdu := [0x00, 0x04, 0x01, 0x0C, 0x0C, 0x02, 0x3F, 0xFF, 0xFF, 0x19, 0x0B] }]

theorem reads_are_fresh_under_own_invoke_ids :
    ∃ d, Device.start .standard = .ok d ∧
      Runs.Each (Session.step .standard defaultDevice [0x01, 0x02]) (.start d) ownReads
        fun s msg => IsReadProperty msg → Retransmission s.history msg ∨
          Fresh .standard defaultDevice [0x01, 0x02] s.device msg := by
  refine ⟨_, rfl, reads_are_fresh rfl _ ?_⟩
  refine Runs.each_cons.mpr ⟨fun _ => .inr fun _ _ => .inl rfl, ?_⟩
  intro s hs
  obtain rfl := Option.some.inj hs
  refine Runs.each_cons.mpr ⟨fun _ => .inr fun id hid => .inl ?_, ?_⟩
  · obtain rfl : 2 = id := Option.some.inj hid
    rfl
  · intro s hs
    obtain rfl := Option.some.inj hs
    refine Runs.each_cons.mpr ⟨fun _ => .inr fun id hid => .inr ?_, fun _ _ => Runs.each_nil⟩
    obtain rfl : 1 = id := Option.some.inj hid
    exact ⟨_, _, rfl, rfl, rfl, rfl, fun _ _ _ _ => rfl⟩

/-- Two clients read two properties under one invoke id: the second gets the
answer to the first. -/
theorem shared_invoke_id_gets_the_other_answer :
    ∃ d d₁ d₂ sent npdu buf, Device.start .standard = .ok d ∧
      d.handle .standard defaultDevice (deviceRead [0x01] 1 11) [0x01, 0x02] =
        .ok (d₁, [.reply npdu buf]) ∧
      npdu.destination = some ⟨1, [0x01]⟩ ∧
      d₁.handle .standard defaultDevice (deviceRead [0x02] 1 76) [0x01, 0x02] = .ok (d₂, sent) ∧
      sent.map Sent.frame = [buf] ∧
      ¬ Runs.Each (Session.step .standard defaultDevice [0x01, 0x02]) (.start d)
        [deviceRead [0x01] 1 11, deviceRead [0x02] 1 76] fun s msg =>
          IsReadProperty msg → Retransmission s.history msg ∨
            Fresh .standard defaultDevice [0x01, 0x02] s.device msg := by
  refine ⟨_, _, _, _, _, _, rfl, rfl, rfl, rfl, rfl, ?_⟩
  intro h
  have hread : IsReadProperty (deviceRead [0x02] 1 76) := ⟨by decide, rfl⟩
  rcases h [deviceRead [0x01] 1 11] (deviceRead [0x02] 1 76) List.prefix_rfl _ rfl hread with
    ⟨latest, -, hlatest⟩ | hfresh
  · cases hlatest
  · obtain ⟨cache, fresh, hfresh, hframes, -⟩ := hfresh _ _ rfl
    cases hfresh
    exact absurd hframes (by decide)

end BacnetBridge
