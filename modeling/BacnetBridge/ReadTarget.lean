import BacnetBridge.ReadProperty

/-! Whether a ReadProperty-ACK is about what the request asked for: the handler
reads the identifiers at fixed offsets, and takes the Device for what it cannot
read. -/
namespace BacnetBridge

/-! ## What a request asks for -/

/-- The fixed header of a confirmed request; a segmented one has two more octets. -/
def headerLength : Octets → Nat
  | [] => 4
  | first :: _ => if first &&& 0x08 = 0 then 4 else 6

/-- Context 0 and context 1 after the header. -/
def requestedOid (C : Codec) (apdu : Octets) : Option ObjectIdentifier :=
  contextOid C apdu (headerLength apdu)

def requestedPropId (apdu : Octets) : Option Nat :=
  (contextPropId apdu (headerLength apdu + 5)).map (·.1)

/-- Every ReadProperty-ACK sent names the object, the property and the invoke id
of the request, and none names the Device when the request names no object. -/
structure AnswersRequest (C : Codec) (config : LocalDeviceConfig) (apdu : Octets)
    (sent : List Sent) : Prop where
  about : ∀ npdu buf, .reply npdu buf ∈ sent → npdu.payload.head? = some 0x30 →
    ∃ ack, ReadAck.parse C npdu.payload = some ack ∧ apdu[2]? = some ack.invokeId ∧
      requestedOid C apdu = some ack.object ∧ requestedPropId apdu = some ack.propId
  noDevice : requestedOid C apdu = none → ∀ npdu buf ack, .reply npdu buf ∈ sent →
    ReadAck.parse C npdu.payload = some ack →
    C.oidNew .device config.deviceId ≠ some ack.object

/-- The identifiers stand where the handler looks for them: the request is not
segmented, an object identifier follows its header, and context 1 of one or two
octets follows that. In a segmented request they can only be the same by chance. -/
def Aligned (C : Codec) (apdu : Octets) (oid : ObjectIdentifier) (propId : UInt16) : Prop :=
  (headerLength apdu = 4 ∧ (contextOid C apdu 4).isSome ∧
      (apdu[9]? = some 0x19 ∨ apdu[9]? = some 0x1A)) ∨
    (headerLength apdu = 6 ∧ requestedOid C apdu = some oid ∧
      requestedPropId apdu = some propId.toNat)

theorem headerLength_cases (apdu : Octets) : headerLength apdu = 4 ∨ headerLength apdu = 6 := by
  unfold headerLength
  split
  · exact .inl rfl
  · split
    · exact .inl rfl
    · exact .inr rfl

/-! ## Where the handler looks -/

theorem u16FromBeBytes_toNat (high low : UInt8) :
    (u16FromBeBytes high low).toNat = high.toNat * 256 + low.toNat := by
  have hhigh := high.toNat_lt
  have hlow := low.toNat_lt
  have hor := Nat.shiftLeft_add_eq_or_of_lt (i := 8) (by omega : low.toNat < 2 ^ 8) high.toNat
  have hshift : high.toNat <<< 8 = high.toNat * 256 := Nat.shiftLeft_eq ..
  have hfits : (high.toNat <<< 8) % 2 ^ 16 = high.toNat <<< 8 := by
    rw [hshift]
    omega
  simp only [u16FromBeBytes, UInt16.toNat_or, UInt16.toNat_shiftLeft, UInt8.toNat_toUInt16]
  rw [show UInt16.toNat 8 % 16 = 8 from rfl, hfits, ← hor, hshift]

/-- A tag octet is number and class above the three bits of its length. -/
theorem tag_toNat (tag : UInt8) : tag.toNat = (tag >>> 3).toNat * 8 + (tag &&& 7).toNat := by
  have hmod : tag.toNat &&& 7 = tag.toNat % 8 := Nat.and_two_pow_sub_one_eq_mod tag.toNat 3
  have hdiv : tag.toNat >>> 3 = tag.toNat / 8 := Nat.shiftRight_eq_div_pow ..
  simp only [UInt8.toNat_shiftRight, UInt8.toNat_and]
  rw [show UInt8.toNat 3 % 8 = 3 from rfl, show UInt8.toNat 7 = 7 from rfl, hmod, hdiv]
  omega

theorem readPropId_some {apdu : Octets} {propId : UInt16}
    (h : readPropId apdu = .ok (some propId)) :
    ∃ ctx1 high, apdu[9]? = some ctx1 ∧ apdu[10]? = some high ∧
      ((ctx1 &&& 0x07 = 1 ∧ propId = high.toUInt16) ∨
        ∃ low, ctx1 &&& 0x07 = 2 ∧ apdu[11]? = some low ∧ propId = u16FromBeBytes high low) := by
  unfold readPropId at h
  obtain ⟨ctx1, hctx1, h⟩ := ok_of_bind h
  dsimp only at h
  split at h
  · cases h
  split at h
  · rename_i hone
    obtain ⟨high, hhigh, h⟩ := ok_of_bind h
    cases h
    exact ⟨ctx1, high, index_eq_ok_iff.mp hctx1, index_eq_ok_iff.mp hhigh, .inl ⟨hone, rfl⟩⟩
  split at h
  · rename_i htwo
    obtain ⟨high, hhigh, h⟩ := ok_of_bind h
    obtain ⟨low, hlow, h⟩ := ok_of_bind h
    cases h
    exact ⟨ctx1, high, index_eq_ok_iff.mp hctx1, index_eq_ok_iff.mp hhigh,
      .inr ⟨low, htwo, index_eq_ok_iff.mp hlow, rfl⟩⟩
  · cases h

theorem ctx1_eq {tag length : UInt8} (hnumber : tag >>> 3 = 3) (hlength : tag &&& 7 = length)
    (hsmall : length.toNat < 8) : tag = 0x18 + length := by
  have htag := tag_toNat tag
  rw [hnumber, hlength] at htag
  apply UInt8.toNat_inj.mp
  rw [htag, UInt8.toNat_add, show UInt8.toNat 3 = 3 from rfl, show UInt8.toNat 0x18 = 24 from rfl]
  omega

theorem number_of_contextPropId {octets : Octets} {start : Nat} {tag : UInt8} {found : Nat × Nat}
    (h : contextPropId octets start = some found) (htag : octets[start]? = some tag) :
    tag >>> 3 = 3 := by
  simp only [contextPropId, htag, Option.bind_eq_bind, Option.bind_some] at h
  split at h
  · rename_i hnumber
    exact hnumber.1
  · cases h

/-- The property that the handler reads is the one under context tag 1 exactly if
the octet it passes over is that tag. -/
theorem contextPropId_iff {apdu : Octets} {propId : UInt16}
    (h : readPropId apdu = .ok (some propId)) :
    (contextPropId apdu 9).map (·.1) = some propId.toNat ↔
      apdu[9]? = some 0x19 ∨ apdu[9]? = some 0x1A := by
  obtain ⟨ctx1, high, hctx1, hhigh, hread⟩ := readPropId_some h
  constructor
  · intro hprop
    obtain ⟨found, hfound, -⟩ := Option.map_eq_some_iff.mp hprop
    have hnumber := number_of_contextPropId hfound hctx1
    rcases hread with ⟨hlen, -⟩ | ⟨low, hlen, -, -⟩
    · exact .inl (by rw [hctx1, ctx1_eq hnumber hlen (by decide)]; rfl)
    · exact .inr (by rw [hctx1, ctx1_eq hnumber hlen (by decide)]; rfl)
  · rintro (htag | htag) <;> obtain rfl := Option.some.inj (hctx1.symm.trans htag)
    · rcases hread with ⟨-, rfl⟩ | ⟨low, hlen, -, -⟩
      · have hnumber : (0x19 : UInt8) >>> 3 = 3 := rfl
        simp [contextPropId, hctx1, hnumber, Tags.unsigned, hhigh]
      · cases hlen
    · rcases hread with ⟨hlen, -⟩ | ⟨low, -, hlow, rfl⟩
      · cases hlen
      · have hnumber : (0x1A : UInt8) >>> 3 = 3 := rfl
        simp [contextPropId, hctx1, hnumber, Tags.unsigned, hhigh, hlow, u16FromBeBytes_toNat]

/-! ## Objects under their own names -/

/-- Every object is filed under its own identifier. -/
def WellKeyed (objects : Objects) : Prop :=
  ∀ oid state, objects oid = some state → oid = ⟨state.objectType, state.inst⟩

theorem WellKeyed.update {objects : Objects} (h : WellKeyed objects) {oid : ObjectIdentifier}
    {state : ObjectState} (hname : oid = ⟨state.objectType, state.inst⟩) :
    WellKeyed (Function.update objects oid (some state)) := (forall_stored_iff h).mpr hname

theorem writePresentValue_name (state : ObjectState) (value : Option F32) (priority : UInt8) :
    (state.writePresentValue value priority).objectType = state.objectType ∧
      (state.writePresentValue value priority).inst = state.inst := by
  unfold ObjectState.writePresentValue ObjectState.updatePriority
  split
  · split <;> exact ⟨rfl, rfl⟩
  · split <;> exact ⟨rfl, rfl⟩

theorem Write.wellKeyed {C : Codec} {config : LocalDeviceConfig} {msg : ReceivedApdu}
    {objects objects' : Objects} {sent : List Sent} (h : WellKeyed objects)
    (hw : Write C config msg objects objects' sent) : WellKeyed objects' := by
  cases hw with
  | ignored | refused => exact h
  | @presentValue oid state propEnd value priority invokeId addressed parsed =>
    obtain ⟨htype, hinst⟩ := writePresentValue_name state value priority
    apply h.update
    rw [htype, hinst]
    exact h _ _ addressed.found
  | outOfService outOfService invokeId addressed =>
    have hname := h _ _ addressed.found
    exact h.update hname

/-- The objects of a device stay under their own names from its start on. -/
theorem wellKeyed_always {C : Codec} (hC : C.EncodesParameters) (config : LocalDeviceConfig)
    (transportMac : Octets) {d : Device} (h : Device.start C = .ok d) (msgs : List ReceivedApdu) :
    Runs.Always (Device.step C config transportMac) d msgs fun d => WellKeyed d.objects := by
  refine Runs.always_of_step ?_ ?_ msgs
  · intro d msg d' hd hstep
    obtain ⟨sent, hhandle⟩ := Device.step_some hstep
    cases Device.handle_cases hhandle with
    | short | unhandled | whoIs | readProperty | subscribeCov => exact hd
    | writeProperty _ _ hwrite => exact (write_cases hwrite).wellKeyed hd
  · have hvalid : ∀ objectType ∈ startTypes, objectType.raw.toNat < 2 ^ 10 := by decide
    exact Device.start_forall h fun _ objectType htype hoid =>
      (hC.oidNew_eq_some (hvalid objectType htype) hoid).1

/-! ## The answer and the question -/

section

variable {C : Codec} {config : LocalDeviceConfig} {msg : ReceivedApdu} {objects : Objects}
  {invokeId : UInt8}

/-- An acknowledgement names the object and the property it is due for. -/
theorem AckDue.parse (hC : C.EncodesParameters) (hkeyed : WellKeyed objects)
    {oid : ObjectIdentifier} {propId : UInt16} {payload : Octets}
    (h : AckDue C config msg objects invokeId oid propId payload) :
    ∃ value, ReadAck.parse C payload = some ⟨invokeId, oid, propId.toNat, value⟩ := by
  cases h with
  | device property target device known value =>
    obtain ⟨-, hvalid⟩ := hC.oidNew_eq_some (by decide) device
    exact ⟨_, ReadAck.parse_build hC hvalid ..⟩
  | object property target device ne found known value =>
    rw [parseOidFromRequest_eq] at target
    have hvalid : oid.Valid := by
      have hasked := Except.ok.inj target
      unfold contextOid at hasked
      split at hasked
      · rename_i hctx0
        exact hC.valid_of_decode (by simp; omega) hasked
      · cases hasked
    rw [← hkeyed oid _ found]
    exact ⟨_, ReadAck.parse_build hC hvalid ..⟩

theorem AckDue.head? {oid : ObjectIdentifier} {propId : UInt16} {payload : Octets}
    (h : AckDue C config msg objects invokeId oid propId payload) :
    payload.head? = some 0x30 := by
  cases h <;> rfl

/-- What the request asks for is what the acknowledgement is about exactly if the
identifiers are where the handler looks for them. -/
theorem AckDue.aligned_iff {oid : ObjectIdentifier} {propId : UInt16} {payload : Octets}
    (h : AckDue C config msg objects invokeId oid propId payload) :
    Aligned C msg.apdu oid propId ↔
      requestedOid C msg.apdu = some oid ∧ requestedPropId msg.apdu = some propId.toNat := by
  obtain ⟨hprop, htarget⟩ : readPropId msg.apdu = .ok (some propId) ∧
      ∀ asked, contextOid C msg.apdu 4 = some asked → asked = oid := by
    cases h with
    | device property target => exact ⟨property, fun asked h => target asked (by
        rw [parseOidFromRequest_eq, h])⟩
    | object property target =>
      rw [parseOidFromRequest_eq] at target
      exact ⟨property, fun asked h => Option.some.inj (h.symm.trans (Except.ok.inj target))⟩
  unfold Aligned
  rcases headerLength_cases msg.apdu with hlen | hlen
  · simp only [requestedOid, requestedPropId, hlen, contextPropId_iff hprop]
    constructor
    · rintro (⟨-, hoid, htag⟩ | ⟨hsix, -⟩)
      · obtain ⟨asked, hasked⟩ := Option.isSome_iff_exists.mp hoid
        rw [hasked, htarget asked hasked]
        exact ⟨rfl, htag⟩
      · cases hsix
    · rintro ⟨hoid, htag⟩
      exact .inl ⟨trivial, by simp [hoid], htag⟩
  · simp [hlen]

end

/-- A ReadProperty that is not in the cache is answered about what it asked for
exactly if every acknowledgement that is due, and can be encoded, is due for
identifiers where the handler looks for them. -/
theorem read_answers_request_iff {C : Codec} (hC : C.EncodesParameters) (hE : C.MarksErrors)
    {config : LocalDeviceConfig} {msg : ReceivedApdu} {cache cache' : Cache} {objects : Objects}
    {sent : List Sent} (hkeyed : WellKeyed objects)
    (huncached : ∀ id, msg.apdu[2]? = some id → cache id = none)
    (h : handleReadProperty C config msg cache objects = .ok (cache', sent)) :
    AnswersRequest C config msg.apdu sent ↔ ∀ id oid propId payload,
      11 ≤ msg.apdu.length → msg.apdu[2]? = some id →
      AckDue C config msg objects id oid propId payload →
      (C.encodeNpdu (replyNpdu config msg payload)).isSome → Aligned C msg.apdu oid propId := by
  constructor
  · intro hanswers id oid propId payload hlen hid hdue hencodes
    obtain ⟨buf, hbuf⟩ := Option.isSome_iff_exists.mp hencodes
    obtain ⟨value, hparse⟩ := hdue.parse hC hkeyed
    have hsent : .reply (replyNpdu config msg payload) buf ∈ sent := by
      rcases handleReadProperty_cases h with ⟨hshort, -⟩ | ⟨id', -, hid', ⟨_, hhit, -⟩ | ⟨-, hread⟩⟩
      · omega
      · cases (huncached id' hid').symm.trans hhit
      · obtain rfl := Option.some.inj (hid.symm.trans hid')
        rw [hdue.readUncached cache] at hread
        obtain hsame : _ = sent := congrArg Prod.snd (Except.ok.inj hread)
        rw [← hsame]
        exact mem_cacheAndSend.mpr ⟨buf, hbuf, rfl⟩
    obtain ⟨ack, hack, -, hoid, hprop⟩ := hanswers.about _ _ hsent hdue.head?
    obtain rfl := Option.some.inj (hparse.symm.trans hack)
    exact hdue.aligned_iff.mpr ⟨hoid, hprop⟩
  · intro haligned
    have habout : ∀ npdu buf, .reply npdu buf ∈ sent → npdu.payload.head? = some 0x30 →
        ∃ ack, ReadAck.parse C npdu.payload = some ack ∧ msg.apdu[2]? = some ack.invokeId ∧
          requestedOid C msg.apdu = some ack.object ∧
          requestedPropId msg.apdu = some ack.propId := by
      intro npdu buf hsent hhead
      rcases handleReadProperty_cases h with
        ⟨-, -, rfl⟩ | ⟨id, hlen, hid, ⟨_, -, -, rfl⟩ | ⟨-, hread⟩⟩
      · cases hsent
      · cases List.mem_singleton.mp hsent
      · obtain ⟨payload, buf, heq, hbuf, ⟨_, _, herror⟩ | ⟨oid, propId, hdue⟩⟩ :=
          mem_readUncached hread hsent
        · cases heq
          cases (hE _ _ herror).symm.trans hhead
        · cases heq
          obtain ⟨value, hparse⟩ := hdue.parse hC hkeyed
          obtain ⟨hoid, hprop⟩ := hdue.aligned_iff.mp
            (haligned id _ _ _ hlen hid hdue (by rw [hbuf]; rfl))
          exact ⟨_, hparse, hid, hoid, hprop⟩
    constructor
    · exact habout
    · intro hnone npdu buf ack hsent hparse
      obtain ⟨_, -, -, hoid, -⟩ := habout npdu buf hsent (ReadAck.head?_of_parse hparse)
      cases hnone.symm.trans hoid

/-- ReadProperty of Present_Value of AO-1. -/
def outputRead : ReceivedApdu where
  apdu := [0x00, 0x05, 0x01, 0x0C, 0x0C, 0x00, 0x40, 0x00, 0x01, 0x19, 0x55]
  sourceMac := [0x01]
  sourceNetwork := none

theorem output_read_is_answered :
    ∃ d cache sent, Device.start .standard = .ok d ∧
      handleReadProperty .standard defaultDevice outputRead d.apduCache d.objects =
        .ok (cache, sent) ∧
      AnswersRequest .standard defaultDevice outputRead.apdu sent := by
  have hkeyed : ∀ d, Device.start .standard = .ok d → WellKeyed d.objects := fun d h =>
    (wellKeyed_always Codec.standard_encodesParameters defaultDevice [] h []).start
  refine ⟨_, _, _, rfl, rfl, (read_answers_request_iff Codec.standard_encodesParameters
    Codec.standard_marksErrors (hkeyed _ rfl) (fun _ _ => rfl) rfl).mpr ?_⟩
  intro _ _ _ _ _ _ _ _
  exact .inl ⟨rfl, rfl, .inl rfl⟩

/-- The first segment of a ReadProperty of Present_Value of the analog output 267. -/
def segmentedRead : ReceivedApdu where
  apdu := [0x0A, 0x05, 0x01, 0x00, 0x01, 0x0C, 0x0C, 0x00, 0x40, 0x01, 0x0B, 0x19, 0x55]
  sourceMac := [0x01]
  sourceNetwork := none

/-- It is answered with a property of the Device object. -/
theorem segmented_read_is_answered_about_the_device :
    ∃ d cache npdu buf, Device.start .standard = .ok d ∧
      handleReadProperty .standard defaultDevice segmentedRead d.apduCache d.objects =
        .ok (cache, [.reply npdu buf]) ∧
      requestedOid .standard segmentedRead.apdu = some ⟨.analogOutput, 267⟩ ∧
      ReadAck.parse .standard npdu.payload =
        some ⟨0x01, ⟨.device, 4194303⟩, 11, [0x22, 0x0B, 0xB8]⟩ ∧
      ¬ AnswersRequest .standard defaultDevice segmentedRead.apdu [.reply npdu buf] := by
  refine ⟨_, _, _, _, rfl, rfl, rfl, rfl, ?_⟩
  intro h
  obtain ⟨ack, hack, -, hoid, -⟩ := h.about _ _ (List.mem_singleton_self _) rfl
  cases hack
  cases hoid

end BacnetBridge
