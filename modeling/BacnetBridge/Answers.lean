import BacnetBridge.ReadProperty
import BacnetBridge.Requests
import BacnetBridge.RetryCache
import BacnetBridge.Survival

/-! When a well-formed ReadProperty or WriteProperty gets the one answer that it
is due. -/
namespace BacnetBridge

/-! ## Answers -/

/-- A SimpleAck, a ComplexACK or an Error under the invoke id. -/
def AnswerPdu (invokeId : UInt8) (payload : Octets) : Prop :=
  (payload[0]? = some 0x20 ∨ payload[0]? = some 0x30 ∨ payload[0]? = some 0x50) ∧
    payload[1]? = some invokeId

def Sent.Unicast : Sent → Prop
  | .reply _ _ | .cached _ => True
  | .broadcast _ _ => False

structure Sent.Answers (C : Codec) (invokeId : UInt8) (frame : Sent) : Prop where
  unicast : frame.Unicast
  pdu : ∃ npdu, C.encodeNpdu npdu = some frame.frame ∧ AnswerPdu invokeId npdu.payload

/-- The device sends one frame for the message, an answer under the invoke id. -/
def Answered (C : Codec) (config : LocalDeviceConfig) (transportMac : Octets) (d : Device)
    (msg : ReceivedApdu) (invokeId : UInt8) : Prop :=
  ∃ d' frame, d.handle C config msg transportMac = .ok (d', [frame]) ∧ frame.Answers C invokeId

/-- The encoders do not fail, and an Error PDU starts with its type and invoke id. -/
structure Codec.Encodes (C : Codec) : Prop where
  apdu : ∀ a, (C.encodeApdu a).isSome
  npdu : ∀ n, (C.encodeNpdu n).isSome
  error : ∀ pdu octets, C.encodeApdu (.error pdu) = some octets →
    octets[0]? = some 0x50 ∧ octets[1]? = some pdu.invokeId

theorem Codec.standard_encodes : Codec.standard.Encodes := by
  refine ⟨fun _ => rfl, fun _ => rfl, ?_⟩
  intro pdu octets h
  obtain rfl := Option.some.inj h
  exact ⟨rfl, rfl⟩

/-- A ReadProperty needs an identifier that the parser reads, unless its answer is
in the cache. A WriteProperty must not end before its fourteenth octet, and needs
such an identifier unless it is for the Device. -/
def PropertyRequest.Served (config : LocalDeviceConfig) (d : Device) (r : PropertyRequest) : Prop :=
  match r.service with
  | .readProperty => (d.apduCache r.invokeId).isSome ∨ r.propId < 65536
  | .writeProperty _ _ => 14 ≤ r.apdu.length ∧
      (r.object = ⟨.device, config.deviceId⟩ ∨ r.propId < 65536)

section

variable {C : Codec} {config : LocalDeviceConfig} {msg : ReceivedApdu} {transportMac : Octets}
  {invokeId : UInt8}

theorem reply_answers {payload buf : Octets} (hpdu : AnswerPdu invokeId payload)
    (h : C.encodeNpdu (replyNpdu config msg payload) = some buf) :
    (Sent.reply (replyNpdu config msg payload) buf).Answers C invokeId :=
  ⟨trivial, _, h, hpdu⟩

theorem answerPdu_error (hE : C.Encodes) {pdu : ErrorPdu} {payload : Octets}
    (h : C.encodeApdu (.error pdu) = some payload) : AnswerPdu pdu.invokeId payload :=
  ⟨.inr (.inr (hE.error pdu payload h).1), (hE.error pdu payload h).2⟩

theorem AckDue.answerPdu {objects : Objects} {oid : ObjectIdentifier} {propId : UInt16}
    {payload : Octets} (h : AckDue C config msg objects invokeId oid propId payload) :
    AnswerPdu invokeId payload := by
  cases h <;> exact ⟨.inr (.inl rfl), rfl⟩

/-! ## What the replies consist of -/

theorem sendUnicast_answers (hE : C.Encodes) {payload : Octets} (h : AnswerPdu invokeId payload) :
    ∃ frame, sendUnicast C (replyNpdu config msg payload) = [frame] ∧
      frame.Answers C invokeId := by
  obtain ⟨buf, hbuf⟩ := Option.isSome_iff_exists.mp (hE.npdu (replyNpdu config msg payload))
  refine ⟨_, ?_, reply_answers h hbuf⟩
  unfold sendUnicast
  rw [hbuf]

theorem cacheAndSend_answers (hE : C.Encodes) {payload : Octets} (h : AnswerPdu invokeId payload)
    (cache : Cache) :
    ∃ frame, (cacheAndSend C cache invokeId (replyNpdu config msg payload)).2 = [frame] ∧
      frame.Answers C invokeId := by
  obtain ⟨buf, hbuf⟩ := Option.isSome_iff_exists.mp (hE.npdu (replyNpdu config msg payload))
  refine ⟨_, ?_, reply_answers h hbuf⟩
  unfold cacheAndSend
  rw [hbuf]

theorem sendError_answers (hE : C.Encodes) (service : ConfirmedServiceChoice)
    (errorClass : ErrorClass) (errorCode : ErrorCode) :
    ∃ frame, sendError C config msg invokeId service errorClass errorCode = [frame] ∧
      frame.Answers C invokeId := by
  obtain ⟨payload, hpayload⟩ := Option.isSome_iff_exists.mp
    (hE.apdu (.error ⟨invokeId, service, errorClass, errorCode, []⟩))
  unfold sendError
  rw [hpayload]
  exact sendUnicast_answers hE (answerPdu_error hE hpayload)

theorem sendSimpleAck_answers (hE : C.Encodes) (service : UInt8) :
    ∃ frame, sendSimpleAck C config msg invokeId service = [frame] ∧ frame.Answers C invokeId :=
  sendUnicast_answers hE ⟨.inl rfl, rfl⟩

/-! ## One ReadProperty -/

theorem readUncached_answers (hE : C.Encodes) {cache cache' : Cache} {objects : Objects}
    {sent : List Sent} {propId : UInt16} {deviceOid : ObjectIdentifier}
    (hprop : readPropId msg.apdu = .ok (some propId))
    (hdevice : C.oidNew .device config.deviceId = some deviceOid)
    (h : readUncached C config msg cache objects invokeId = .ok (cache', sent)) :
    ∃ frame, sent = [frame] ∧ frame.Answers C invokeId := by
  have hcases := read_cases h
  generalize hanswer : (cache', sent) = answer at hcases
  obtain rfl : sent = answer.2 := congrArg Prod.snd hanswer
  cases hcases with
  | unread hnone => cases hnone.symm.trans hprop
  | nameless hnone => cases hnone.symm.trans hdevice
  | refused errorClass errorCode => exact sendError_answers hE ..
  | unencoded hnone =>
    have hencodes := hE.apdu (.error ⟨invokeId, .readProperty, .property, .unknownProperty, []⟩)
    rw [hnone] at hencodes
    cases hencodes
  | unknownProperty hpayload => exact cacheAndSend_answers hE (answerPdu_error hE hpayload) cache
  | acked hdue => exact cacheAndSend_answers hE hdue.answerPdu cache

theorem readUncached_unread {cache : Cache} {objects : Objects}
    (h : readPropId msg.apdu = .ok none) :
    readUncached C config msg cache objects invokeId = .ok (cache, []) := by
  unfold readUncached
  rw [h]
  rfl

/-- Every entry of the cache is an answer under its key. -/
def Device.CacheAnswers (C : Codec) (d : Device) : Prop :=
  ∀ id buf, d.apduCache id = some buf →
    ∃ npdu, C.encodeNpdu npdu = some buf ∧ AnswerPdu id npdu.payload

theorem handle_cacheAnswers (hE : C.Encodes) {d d' : Device} {sent : List Sent}
    (hd : d.CacheAnswers C) (h : d.handle C config msg transportMac = .ok (d', sent)) :
    d'.CacheAnswers C := by
  intro id buf hhit
  rcases handle_cache h with hsame | ⟨filed, npdu, filedBuf, -, hfiled, hread⟩
  · exact hd id buf (hsame ▸ hhit)
  · by_cases heq : id = filed
    · subst heq
      rw [hfiled, Function.update_self] at hhit
      obtain rfl := Option.some.inj hhit
      obtain ⟨payload, buf, hframe, hbuf, hpdu⟩ :=
        mem_readUncached (hread d.apduCache) (List.mem_singleton_self _)
      injection hframe with _ hsame
      subst hsame
      refine ⟨_, hbuf, ?_⟩
      rcases hpdu with ⟨_, _, herror⟩ | ⟨_, _, hdue⟩
      · exact answerPdu_error hE herror
      · exact hdue.answerPdu
    · rw [hfiled, Function.update_of_ne heq] at hhit
      exact hd id buf hhit

theorem cacheAnswers_of_run (hE : C.Encodes) {d₀ d : Device} (hstart : Device.start C = .ok d₀)
    {msgs : List ReceivedApdu}
    (hrun : Runs.after (Device.step C config transportMac) d₀ msgs = some d) :
    d.CacheAnswers C := by
  have halways : Runs.Always (Device.step C config transportMac) d₀ msgs
      (Device.CacheAnswers C) := by
    refine Runs.always_of_step ?_ ?_ msgs
    · intro d msg d' hd hstep
      obtain ⟨sent, hhandle⟩ := Device.step_some hstep
      exact handle_cacheAnswers hE hd hhandle
    · obtain ⟨_, _, _, -, -, -, hcache, -⟩ := Device.start_cases hstart
      intro id buf hhit
      rw [hcache] at hhit
      cases hhit
  exact halways msgs List.prefix_rfl d hrun

/-! ## One WriteProperty -/

theorem handle_writeProperty {d d' : Device} {sent : List Sent} (hlen : 2 ≤ msg.apdu.length)
    (hservice : pduTypeAndService msg.apdu = .ok (0x00, 0x0F))
    (h : d.handle C config msg transportMac = .ok (d', sent)) :
    handleWriteProperty C config msg d.objects = .ok (d'.objects, sent) := by
  rw [Device.handle_of_service hlen hservice] at h
  obtain ⟨_, hwrite, h⟩ := ok_of_bind h
  cases h
  exact hwrite

theorem writeObject_answers (hE : C.Encodes) {objects objects' : Objects} {sent : List Sent}
    {oid : ObjectIdentifier} {state : ObjectState} {propId : UInt16} {propEnd : Nat}
    (h : writeObject C config msg objects invokeId oid state propId propEnd =
      .ok (objects', sent)) : ∃ frame, sent = [frame] ∧ frame.Answers C invokeId := by
  unfold writeObject at h
  split at h
  · obtain ⟨parsed, -, h⟩ := ok_of_bind h
    cases parsed with
    | none =>
      cases h
      exact sendError_answers hE ..
    | some parsed =>
      cases h
      exact sendSimpleAck_answers hE _
  split at h
  · obtain ⟨state', -, h⟩ := ok_of_bind h
    cases h
    exact sendSimpleAck_answers hE _
  · cases h
    exact sendError_answers hE ..

theorem handleWriteProperty_answers (hE : C.Encodes) {objects objects' : Objects}
    {sent : List Sent} {oid deviceOid : ObjectIdentifier} (hlen : 14 ≤ msg.apdu.length)
    (hid : msg.apdu[2]? = some invokeId) (htarget : parseOidFromRequest C msg.apdu = .ok (some oid))
    (hdevice : C.oidNew .device config.deviceId = some deviceOid)
    (hprop : oid = deviceOid ∨ ∃ found, writePropId msg.apdu = .ok (some found))
    (h : handleWriteProperty C config msg objects = .ok (objects', sent)) :
    ∃ frame, sent = [frame] ∧ frame.Answers C invokeId := by
  unfold handleWriteProperty at h
  rw [if_neg (by omega), index_eq_ok_iff.mpr hid, htarget] at h
  simp only [bind, Except.bind, hdevice] at h
  by_cases hself : oid = deviceOid
  · rw [if_pos hself] at h
    cases h
    exact sendError_answers hE ..
  · obtain ⟨found, hfound⟩ := hprop.resolve_left hself
    rw [if_neg hself, hfound] at h
    cases hstate : objects oid with
    | none =>
      rw [hstate] at h
      cases h
      exact sendError_answers hE ..
    | some state =>
      rw [hstate] at h
      exact writeObject_answers hE h

theorem handleWriteProperty_short {objects : Objects} (h : msg.apdu.length < 14) :
    handleWriteProperty C config msg objects = .ok (objects, []) := by
  unfold handleWriteProperty
  rw [if_pos h]
  rfl

theorem handleWriteProperty_unread {objects : Objects} {oid deviceOid : ObjectIdentifier}
    (hlen : 14 ≤ msg.apdu.length) (htarget : parseOidFromRequest C msg.apdu = .ok (some oid))
    (hdevice : C.oidNew .device config.deviceId = some deviceOid) (hne : oid ≠ deviceOid)
    (hprop : writePropId msg.apdu = .ok none) :
    handleWriteProperty C config msg objects = .ok (objects, []) := by
  unfold handleWriteProperty
  rw [if_neg (by omega), index_of_lt (by omega), htarget]
  simp only [bind, Except.bind, hdevice, hne, if_false, hprop]
  rfl

end

/-! ## Requests -/

section

variable {C : Codec} {config : LocalDeviceConfig} {transportMac : Octets} {d : Device}
  {r : PropertyRequest} {sourceMac : Octets} {sourceNetwork : Option NpduAddress}

theorem PropertyRequest.handle_ok (C : Codec) (config : LocalDeviceConfig) (transportMac : Octets)
    (d : Device) (r : PropertyRequest) (sourceMac : Octets)
    (sourceNetwork : Option NpduAddress) :
    ∃ answer, d.handle C config (r.received sourceMac sourceNetwork) transportMac = .ok answer := by
  apply (safe_handle_iff C config transportMac d _).mpr
  intro hpast
  have hlen : r.apdu.length = 11 := hpast.length
  have hprop : ∀ ctx1, r.apdu[9]? = some ctx1 → ctx1 &&& 7 = 2 := hpast.propLen
  rcases r.property_octets with ⟨-, ⟨_, htag, -⟩ | ⟨_, _, hlong, -⟩⟩ | ⟨-, hlong, -⟩
  · exact absurd (hprop _ (index_eq_ok_iff.mp htag)) (by decide)
  · omega
  · omega

theorem oidNew_device (hC : C.EncodesParameters) (h : config.deviceId ≤ 4194303) :
    C.oidNew .device config.deviceId = some ⟨.device, config.deviceId⟩ := by
  rw [hC.oidNew_device, if_pos h]

theorem read_answered_iff (hC : C.EncodesParameters) (hE : C.Encodes)
    (hdevice : config.deviceId ≤ 4194303) (hcache : d.CacheAnswers C)
    (hservice : r.service = .readProperty) :
    Answered C config transportMac d (r.received sourceMac sourceNetwork) r.invokeId ↔
      (d.apduCache r.invokeId).isSome ∨ r.propId < 65536 := by
  have hlen := r.le_apdu_length
  have hread : IsReadProperty (r.received sourceMac sourceNetwork) := by
    have happ := r.service_apdu
    rw [hservice] at happ
    exact ⟨(by omega : 2 ≤ r.apdu.length), happ⟩
  have hid : (r.received sourceMac sourceNetwork).apdu[2]? = some r.invokeId := r.invokeId_apdu
  constructor
  · rintro ⟨d', frame, hhandle, -⟩
    by_contra hunserved
    obtain ⟨hmiss, hlarge⟩ := not_or.mp hunserved
    have hunread : readPropId (r.received sourceMac sourceNetwork).apdu = .ok none := by
      rcases r.readPropId_apdu with ⟨hlt, -⟩ | ⟨-, hnone⟩
      · exact absurd hlt hlarge
      · exact hnone
    obtain ⟨-, hhandle⟩ := handle_readProperty hread hhandle
    rcases handleReadProperty_cases hhandle with
      ⟨-, -, hsent⟩ | ⟨id, -, hid', ⟨buf, hhit, -⟩ | ⟨-, huncached⟩⟩
    · cases hsent
    · obtain rfl := Option.some.inj (hid.symm.trans hid')
      rw [hhit] at hmiss
      exact hmiss rfl
    · cases congrArg Prod.snd (Except.ok.inj ((readUncached_unread hunread).symm.trans huncached))
  · intro hserved
    obtain ⟨⟨d', sent⟩, hhandle⟩ := r.handle_ok C config transportMac d sourceMac sourceNetwork
    have hanswer : ∃ frame, sent = [frame] ∧ frame.Answers C r.invokeId := by
      obtain ⟨-, hread⟩ := handle_readProperty hread hhandle
      rcases handleReadProperty_cases hread with
        ⟨hshort, -⟩ | ⟨id, -, hid', ⟨buf, hhit, -, rfl⟩ | ⟨hmiss, huncached⟩⟩
      · have hshort : r.apdu.length < 11 := hshort
        omega
      · obtain rfl := Option.some.inj (hid.symm.trans hid')
        exact ⟨_, rfl, trivial, hcache _ buf hhit⟩
      · obtain rfl := Option.some.inj (hid.symm.trans hid')
        have hsmall : r.propId < 65536 := hserved.resolve_left (by simp [hmiss])
        rcases r.readPropId_apdu with ⟨-, propId, hprop⟩ | ⟨hlarge, -⟩
        · have hfound : readPropId (r.received sourceMac sourceNetwork).apdu = .ok (some propId) :=
            hprop
          exact readUncached_answers hE hfound (oidNew_device hC hdevice) huncached
        · omega
    obtain ⟨frame, rfl, hframe⟩ := hanswer
    exact ⟨d', frame, hhandle, hframe⟩

theorem write_answered_iff (hC : C.EncodesParameters) (hE : C.Encodes)
    (hdevice : config.deviceId ≤ 4194303) {value : Octets} {priority : Option Priority}
    (hservice : r.service = .writeProperty value priority) :
    Answered C config transportMac d (r.received sourceMac sourceNetwork) r.invokeId ↔
      14 ≤ r.apdu.length ∧ (r.object = ⟨.device, config.deviceId⟩ ∨ r.propId < 65536) := by
  have happ : pduTypeAndService (r.received sourceMac sourceNetwork).apdu = .ok (0x00, 0x0F) := by
    have happ := r.service_apdu
    rwa [hservice] at happ
  have hlen : 2 ≤ (r.received sourceMac sourceNetwork).apdu.length := by
    have hlong := r.le_apdu_length
    exact (by omega : 2 ≤ r.apdu.length)
  have htarget : parseOidFromRequest C (r.received sourceMac sourceNetwork).apdu =
      .ok (some r.object) := r.parseOid_apdu hC
  have hown := oidNew_device hC hdevice
  constructor
  · rintro ⟨d', frame, hhandle, -⟩
    have hwrite := handle_writeProperty hlen happ hhandle
    have hlong : 14 ≤ r.apdu.length := by
      by_contra hshort
      have hsilent := (handleWriteProperty_short (Nat.not_le.mp hshort)).symm.trans hwrite
      cases congrArg Prod.snd (Except.ok.inj hsilent)
    refine ⟨hlong, ?_⟩
    by_cases hself : r.object = ⟨.device, config.deviceId⟩
    · exact .inl hself
    rcases r.writePropId_apdu hlong with ⟨hsmall, -⟩ | ⟨-, hnone⟩
    · exact .inr hsmall
    · have hsilent := (handleWriteProperty_unread hlong htarget hown hself hnone).symm.trans hwrite
      cases congrArg Prod.snd (Except.ok.inj hsilent)
  · rintro ⟨hlong, hserved⟩
    obtain ⟨⟨d', sent⟩, hhandle⟩ := r.handle_ok C config transportMac d sourceMac sourceNetwork
    have hprop : r.object = ⟨.device, config.deviceId⟩ ∨
        ∃ found, writePropId (r.received sourceMac sourceNetwork).apdu = .ok (some found) := by
      apply hserved.imp_right
      intro hsmall
      rcases r.writePropId_apdu hlong with ⟨-, hfound⟩ | ⟨hlarge, -⟩
      · exact hfound
      · omega
    obtain ⟨frame, rfl, hframe⟩ := handleWriteProperty_answers hE hlong r.invokeId_apdu htarget
      hown hprop (handle_writeProperty hlen happ hhandle)
    exact ⟨d', frame, hhandle, hframe⟩

end

/-- A well-formed request gets exactly one answer, in every state of the device, if
and only if its property identifier is one that the parsers read and it is as long
as they expect; the cache and the Device object are the exceptions. -/
theorem request_answered_iff {C : Codec} (hC : C.EncodesParameters) (hE : C.Encodes)
    {config : LocalDeviceConfig} (hdevice : config.deviceId ≤ 4194303) {transportMac : Octets}
    {d₀ d : Device} (hstart : Device.start C = .ok d₀) {msgs : List ReceivedApdu}
    (hrun : Runs.after (Device.step C config transportMac) d₀ msgs = some d) (r : PropertyRequest)
    (sourceMac : Octets) (sourceNetwork : Option NpduAddress) :
    Answered C config transportMac d (r.received sourceMac sourceNetwork) r.invokeId ↔
      r.Served config d := by
  have hcache := cacheAnswers_of_run hE hstart hrun
  unfold PropertyRequest.Served
  cases hservice : r.service with
  | readProperty => exact read_answered_iff hC hE hdevice hcache hservice
  | writeProperty value priority => exact write_answered_iff hC hE hdevice hservice

/-- Of a property of AO-1. -/
def outputRequest (service : PropertyService) (propId : Nat) (h : propId ≤ 4194303) :
    PropertyRequest where
  segmentedResponseAccepted := true
  maxResponse := 0x05
  invokeId := 1
  service
  object := ⟨.analogOutput, 1⟩
  valid := ⟨by decide, by decide⟩
  propId
  propId_le := h
  arrayIndex := none

theorem present_value_read_answered :
    ∃ d, Device.start .standard = .ok d ∧ Answered .standard defaultDevice [0x0A] d
      ((outputRequest .readProperty 85 (by decide)).received [0x01] none) 1 := by
  refine ⟨_, rfl, (request_answered_iff Codec.standard_encodesParameters Codec.standard_encodes
    (by decide) rfl (rfl : Runs.after _ _ [] = some _) _ _ _).mpr ?_⟩
  exact .inr (by decide)

/-- A proprietary property of three octets: the device stays silent. -/
theorem wide_property_read_unanswered :
    ∃ d, Device.start .standard = .ok d ∧
      d.handle .standard defaultDevice
        ((outputRequest .readProperty 70000 (by decide)).received [0x01] none) [0x0A] =
          .ok (d, []) ∧
      ¬ Answered .standard defaultDevice [0x0A] d
        ((outputRequest .readProperty 70000 (by decide)).received [0x01] none) 1 := by
  refine ⟨_, rfl, rfl, ?_⟩
  rintro ⟨d', frame, hhandle, -⟩
  cases hhandle

end BacnetBridge
