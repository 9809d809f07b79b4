import BacnetBridge.WriteProperty

/-! WriteProperty requests as the standard encodes them, and what the device
makes of them. -/
namespace BacnetBridge

/-- The priorities that a request can give. -/
structure Priority where
  val : UInt8
  bounds : 1 ≤ val ∧ val ≤ 16

def Priority.slot (p : Priority) : Fin 16 :=
  ⟨p.val.toNat - 1, by
    have h := UInt8.le_iff_toNat_le.mp p.bounds.2
    simp at h
    omega⟩

/-- A write to Present_Value in the standard's encoding: a Real, or Null to
relinquish. -/
structure StandardWrite where
  segmentedResponseAccepted : Bool
  maxResponse : UInt8
  invokeId : UInt8
  object : ObjectIdentifier
  value : Option F32
  priority : Option Priority

namespace StandardWrite

/-- The slot that the request is for; without a priority it is the lowest. -/
def slot (r : StandardWrite) : Fin 16 := (r.priority.map Priority.slot).getD 15

/-- The Real or Null that stands between the tags. -/
def valueOctets (r : StandardWrite) : Octets :=
  match r.value with
  | some v => Standard.tagged 4 0 v.toBeBytes
  | none => [0x00]

def priorityOctets (r : StandardWrite) : Octets :=
  match r.priority with
  | some p => Standard.tagged 4 8 [p.val]
  | none => []

/-- The header of an unsegmented confirmed request, then context 0, context 1,
the value between opening and closing tag 3, and context 4. -/
def apdu (r : StandardWrite) : Octets :=
  [if r.segmentedResponseAccepted then 0x02 else 0x00, r.maxResponse, r.invokeId, 0x0F] ++
    Standard.tagged 0 8 (Standard.oidOctets r.object) ++ Standard.tagged 1 8 [85] ++
    [0x3E] ++ r.valueOctets ++ [0x3F] ++ r.priorityOctets

def received (r : StandardWrite) (sourceMac : Octets) (sourceNetwork : Option NpduAddress) :
    ReceivedApdu :=
  ⟨r.apdu, sourceMac, sourceNetwork⟩

theorem one_le_valueOctets (r : StandardWrite) : 1 ≤ r.valueOctets.length := by
  unfold valueOctets
  split
  · rename_i v _
    change 1 ≤ (0x44 :: v.toBeBytes).length
    simp
  · simp

/-- The header and the two identifiers take eleven octets; the opening tag is next. -/
theorem apdu_layout (r : StandardWrite) :
    ∃ b₀ b₅ b₆ b₇ b₈, r.apdu = [b₀, r.maxResponse, r.invokeId, 0x0F, 0x0C, b₅, b₆, b₇, b₈, 0x19, 85,
      0x3E] ++ (r.valueOctets ++ [0x3F] ++ r.priorityOctets) := by
  have hoid : ∃ b₀ b₁ b₂ b₃, Standard.oidOctets r.object = [b₀, b₁, b₂, b₃] :=
    ⟨_, _, _, _, rfl⟩
  obtain ⟨b₅, b₆, b₇, b₈, hoid⟩ := hoid
  refine ⟨if r.segmentedResponseAccepted then 0x02 else 0x00, b₅, b₆, b₇, b₈, ?_⟩
  simp only [apdu, hoid, List.append_assoc]
  rfl

theorem le_apdu_length (r : StandardWrite) : 14 ≤ r.apdu.length := by
  obtain ⟨_, _, _, _, _, h⟩ := r.apdu_layout
  have := r.one_le_valueOctets
  simp [h]
  omega

theorem writePropId_apdu (r : StandardWrite) : writePropId r.apdu = .ok (some (85, 11)) := by
  have hlen := r.le_apdu_length
  obtain ⟨_, _, _, _, _, h⟩ := r.apdu_layout
  have hctx1 : index r.apdu 9 = .ok 0x19 := by
    rw [h]
    rfl
  have hprop : index r.apdu 10 = .ok 85 := by
    rw [h]
    rfl
  unfold writePropId
  simp only [hctx1, hprop, bind, Except.bind, show (0x19 : UInt8) &&& 0x07 = 1 from rfl]
  have hroom : ¬ ((1 : UInt8) = 0 ∨ (1 : UInt8) > 4 ∨ r.apdu.length ≤ 10 + (1 : UInt8).toNat) := by
    simp
    omega
  rw [if_neg hroom]
  rfl

/-- The parser looks for a primitive value under context tag 2, and the
standard opens tag 3. -/
theorem parse_apdu {C : Codec} (h : C.DecodesTags) (r : StandardWrite) :
    parseWritePropertyValue C r.apdu 11 = .ok none := by
  obtain ⟨_, _, _, _, _, hlayout⟩ := r.apdu_layout
  have hopening : r.apdu[11]? = some 0x3E := by
    rw [hlayout]
    rfl
  have hstandard : Tags.decode r.apdu 11 = some (⟨3, .context, 0, true, false⟩, 12) :=
    Tags.decode_opening hopening (by decide) (by decide) (by decide)
  have htag : C.decodeTag r.apdu 11 = some (⟨3, .context, 0, true, false⟩, 12) :=
    h _ _ _ hstandard (Nat.zero_le _) (.inl rfl)
  have hclass : Tags.Tag.isContext ⟨3, .context, 0, true, false⟩ 2 = false :=
    Tags.Tag.isContext_opening rfl 2
  simp only [parseWritePropertyValue, htag, hclass, if_true]
  rfl

end StandardWrite

/-- The frame is a SimpleAck of a WriteProperty. -/
def Sent.IsWriteAck (invokeId : UInt8) : Sent → Prop
  | .reply npdu _ => npdu.payload = [0x20, invokeId, 0x0F]
  | _ => False

/-- The device stores the value in its slot and sends a SimpleAck. -/
def Understood (C : Codec) (config : LocalDeviceConfig) (sourceMac : Octets)
    (sourceNetwork : Option NpduAddress) (objects : Objects) (r : StandardWrite) : Prop :=
  ∃ objects' sent state,
    handleWriteProperty C config (r.received sourceMac sourceNetwork) objects =
      .ok (objects', sent) ∧
    objects' r.object = some state ∧ state.priorityArray[r.slot] = r.value ∧
    ∃ frame ∈ sent, frame.IsWriteAck r.invokeId

theorem sendError_not_writeAck {C : Codec} (hC : C.MarksErrors) {config : LocalDeviceConfig}
    {msg : ReceivedApdu} {invokeId ackedId : UInt8} {service : ConfirmedServiceChoice}
    {errorClass : ErrorClass} {errorCode : ErrorCode} {frame : Sent}
    (h : frame ∈ sendError C config msg invokeId service errorClass errorCode) :
    ¬ frame.IsWriteAck ackedId := by
  obtain ⟨payload, buf, hpayload, -, rfl⟩ := mem_sendError h
  intro hack
  have hpayload' : payload = [0x20, ackedId, 0x0F] := hack
  have := hC _ _ hpayload
  rw [hpayload'] at this
  cases this

/-- A request in the standard's encoding leaves the objects as they are and gets
no SimpleAck. -/
theorem standard_write_refused {C : Codec} (hC : C.DecodesTags) {config : LocalDeviceConfig}
    {sourceMac : Octets} {sourceNetwork : Option NpduAddress} {objects objects' : Objects}
    {sent : List Sent} {r : StandardWrite}
    (h : handleWriteProperty C config (r.received sourceMac sourceNetwork) objects =
      .ok (objects', sent)) :
    objects' = objects ∧ (sent = [] ∨ ∃ invokeId errorClass errorCode, sent =
      sendError C config (r.received sourceMac sourceNetwork) invokeId .writeProperty errorClass
        errorCode) := by
  have hprop : writePropId (r.received sourceMac sourceNetwork).apdu = .ok (some (85, 11)) :=
    r.writePropId_apdu
  cases write_cases h with
  | ignored => exact ⟨rfl, .inl rfl⟩
  | refused => exact ⟨rfl, .inr ⟨_, _, _, rfl⟩⟩
  | presentValue invokeId addressed parsed =>
    cases hprop.symm.trans addressed.property
    cases (StandardWrite.parse_apdu hC r).symm.trans parsed
  | outOfService _ invokeId addressed =>
    cases hprop.symm.trans addressed.property

theorem standard_write_never_understood {C : Codec} (hC : C.DecodesTags) (hE : C.MarksErrors)
    (config : LocalDeviceConfig) (sourceMac : Octets) (sourceNetwork : Option NpduAddress)
    (objects : Objects) (r : StandardWrite) :
    ¬ Understood C config sourceMac sourceNetwork objects r := by
  rintro ⟨objects', sent, state, hhandle, -, -, frame, hframe, hack⟩
  obtain ⟨-, rfl | ⟨_, _, _, rfl⟩⟩ := standard_write_refused hC hhandle
  · cases hframe
  · exact sendError_not_writeAck hE hframe hack

/-- 42.5 to Present_Value of AO-1 at priority 8. -/
def analogWrite : StandardWrite where
  segmentedResponseAccepted := true
  maxResponse := 0x05
  invokeId := 1
  object := ⟨.analogOutput, 1⟩
  value := some ⟨0x422A0000⟩
  priority := some ⟨8, by decide⟩

theorem analog_write_not_understood :
    ∃ d, Device.start .standard = .ok d ∧
      ¬ Understood .standard defaultDevice [0x01] none d.objects analogWrite :=
  ⟨_, rfl, standard_write_never_understood Codec.standard_decodesTags Codec.standard_marksErrors
    defaultDevice [0x01] none _ analogWrite⟩

/-- The device answers with an Error: write access denied. -/
theorem analog_write_is_denied :
    ∃ d npdu buf, Device.start .standard = .ok d ∧
      handleWriteProperty .standard defaultDevice (analogWrite.received [0x01] none) d.objects =
        .ok (d.objects, [.reply npdu buf]) ∧
      npdu.payload = [0x50, 1, 0x0F, 0x91, 2, 0x91, 40] ∧
      ¬ Understood .standard defaultDevice [0x01] none d.objects analogWrite := by
  refine ⟨_, _, _, rfl, rfl, rfl, ?_⟩
  rintro ⟨objects', sent, state, hhandle, hfound, hstored, -⟩
  cases hhandle
  cases hfound
  cases hstored

end BacnetBridge
