import BacnetBridge.PriorityHistory
import BacnetBridge.ReadAck
import BacnetBridge.WriteAck

/-! Status_Flags beside Out_Of_Service, each read back from the octets that it is
answered with. -/
namespace BacnetBridge

/-! ## The readers -/

/-- The bits of an octet, from the most significant one. -/
def bits (octet : UInt8) : List Bool := (List.range 8).map fun i => octet.toNat.testBit (7 - i)

/-- A bit string: how many bits of its last octet are unused, and its octets. -/
def readBitString (data : Octets) : Option (List Bool) :=
  match Tags.application 8 data with
  | some (unused :: octets, []) =>
    if unused.toNat < 8 ∧ unused.toNat ≤ 8 * octets.length then
      some ((octets.flatMap bits).take (8 * octets.length - unused.toNat))
    else none
  | _ => none

/-- A Boolean, whose value stands in the length of its tag. -/
def readBoolean (data : Octets) : Option Bool := do
  let (tag, start) ← Tags.decode data 0
  if tag.tagClass = .application ∧ tag.number = 1 ∧ tag.length ≤ 1 ∧ start = data.length then
    return tag.length = 1
  else none

/-- Booleans and bit strings are encoded as the standard says, with the octets of a
bit string as they are given. -/
structure Codec.EncodesFlags (C : Codec) : Prop where
  encodeAppBoolean : C.encodeAppBoolean = Codec.standard.encodeAppBoolean
  encodeAppBitString : ∀ unused data,
    C.encodeAppBitString unused data = Standard.tagged 8 0 (unused :: data)

theorem Codec.standard_encodesFlags : Codec.standard.EncodesFlags := ⟨rfl, fun _ _ => rfl⟩

/-- Status_Flags reads as four bits of which the last is what Out_Of_Service reads as,
and the others are clear. -/
def ObjectState.FlagsAgree (C : Codec) (state : ObjectState) : Prop :=
  ∃ flags value outOfService, objectValueBytes C state 111 = .ok flags ∧
    objectValueBytes C state 81 = .ok value ∧ readBoolean value = some outOfService ∧
    readBitString flags = some [false, false, false, outOfService]

def AllFlagsAgree (C : Codec) (objects : Objects) : Prop :=
  ∀ oid state, objects oid = some state → state.FlagsAgree C

/-! ## One object -/

theorem readBoolean_encoded (b : Bool) :
    readBoolean (Codec.standard.encodeAppBoolean b) = some b := by
  cases b <;> rfl

theorem readBitString_tagged (octet : UInt8) :
    readBitString (Standard.tagged 8 0 [4, octet]) = some ((bits octet).take 4) := by
  have hlength : [4, octet].length < 2 ^ 32 := by simp
  have hread := Standard.primitive_tagged (by decide : 8 < 15) (.inl rfl) hlength []
  rw [List.append_nil] at hread
  have hvalue : Tags.application 8 (Standard.tagged 8 0 [4, octet]) = some ([4, octet], []) := by
    rw [Tags.application, Tags.valueUnder, hread]
    rfl
  rw [readBitString, hvalue]
  simp

/-- The octet 1 that is written for a set flag is the last of the unused bits: the
flags agree as long as there is nothing to show. -/
theorem flagsAgree_iff {C : Codec} (hC : C.EncodesFlags) (state : ObjectState) :
    state.FlagsAgree C ↔ state.outOfService = false := by
  have hvalue : objectValueBytes C state 81 =
      .ok (Codec.standard.encodeAppBoolean state.outOfService) := by
    rw [← hC.encodeAppBoolean]
    rfl
  have hflags : objectValueBytes C state 111 =
      .ok (Standard.tagged 8 0 [4, if state.outOfService then 1 else 0]) := by
    rw [← hC.encodeAppBitString]
    rfl
  have hclear : (bits (if state.outOfService then 1 else 0)).take 4 =
      [false, false, false, false] := by
    cases state.outOfService <;> rfl
  constructor
  · rintro ⟨flags, value, outOfService, hflags', hvalue', hboolean, hbits⟩
    obtain rfl := Except.ok.inj (hflags.symm.trans hflags')
    obtain rfl := Except.ok.inj (hvalue.symm.trans hvalue')
    obtain rfl := Option.some.inj ((readBoolean_encoded _).symm.trans hboolean)
    rw [readBitString_tagged, hclear] at hbits
    simp only [Option.some.injEq, List.cons.injEq, and_true, true_and] at hbits
    exact hbits.symm
  · intro hstate
    refine ⟨_, _, state.outOfService, hflags, hvalue, readBoolean_encoded _, ?_⟩
    rw [readBitString_tagged, hclear, hstate]

/-! ## One write -/

/-- The value of a write to Out_Of_Service is taken for true: the header at `propEnd` is
one of context tag 2 and length 1, and the octet behind its first is not zero. -/
def WritesTrue (C : Codec) (apdu : Octets) (propEnd : Nat) : Prop :=
  ∃ tag2 pos2 second, C.decodeTag apdu propEnd = some (tag2, pos2) ∧ tag2.isContext 2 ∧
    tag2.length = 1 ∧ apdu[propEnd + 1]? = some second ∧ second ≠ 0

/-- A write that sets Out_Of_Service of an object that is there. -/
def SetsOutOfService (C : Codec) (config : LocalDeviceConfig) (objects : Objects)
    (msg : ReceivedApdu) : Prop :=
  ∃ oid state propEnd, Addressed C config msg objects oid state 81 propEnd ∧
    WritesTrue C msg.apdu propEnd

theorem writeOutOfService_clear_iff {C : Codec} {state state' : ObjectState} {apdu : Octets}
    {propEnd : Nat} (h : writeOutOfService C state apdu propEnd = .ok state')
    (hclear : state.outOfService = false) :
    state'.outOfService = false ↔ ¬ WritesTrue C apdu propEnd := by
  unfold WritesTrue
  unfold writeOutOfService at h
  cases hdecode : C.decodeTag apdu propEnd with
  | none =>
    obtain rfl : state = state' := by simpa [hdecode, pure, Except.pure] using h
    simpa using hclear
  | some found =>
    obtain ⟨tag2, pos2⟩ := found
    simp only [hdecode] at h
    split at h
    · rename_i htag
      split at h
      · rename_i hroom
        simp only [index_of_lt hroom] at h
        obtain rfl := Except.ok.inj h
        simp [htag, hroom]
      · rename_i hroom
        obtain rfl := Except.ok.inj h
        simp [hclear, hroom]
    · rename_i htag
      obtain rfl := Except.ok.inj h
      refine iff_of_true hclear ?_
      rintro ⟨_, _, _, hsame, hcontext, hlength, -⟩
      obtain ⟨rfl, rfl⟩ := Prod.mk.inj (Option.some.inj hsame)
      exact htag ⟨hcontext, hlength⟩

theorem ObjectState.writePresentValue_outOfService (state : ObjectState) (value : Option F32)
    (priority : UInt8) :
    (state.writePresentValue value priority).outOfService = state.outOfService := by
  unfold ObjectState.writePresentValue
  split
  · exact (state.updatePriority_identity _ _).2
  · cases value <;> rfl

/-! ## Runs -/

def InService (objects : Objects) : Prop :=
  ∀ oid state, objects oid = some state → state.outOfService = false

theorem InService.update {objects : Objects} (h : InService objects) {oid : ObjectIdentifier}
    {state : ObjectState} :
    InService (Function.update objects oid (some state)) ↔ state.outOfService = false :=
  forall_stored_iff h

theorem start_inService {C : Codec} {d : Device} (h : Device.start C = .ok d) :
    InService d.objects := Device.start_forall h fun _ _ _ _ => rfl

section

variable {C : Codec} {config : LocalDeviceConfig} {objects objects' : Objects} {msg : ReceivedApdu}

theorem writeStep_eq_some : writeStep C config objects msg = some objects' ↔
    ∃ answer, handleWriteProperty C config msg objects = .ok answer ∧ answer.1 = objects' := by
  unfold writeStep
  cases handleWriteProperty C config msg objects <;> simp [Except.toOption]

theorem Addressed.sets_iff {oid : ObjectIdentifier} {state : ObjectState} {propEnd : Nat}
    (h : Addressed C config msg objects oid state 81 propEnd) :
    SetsOutOfService C config objects msg ↔ WritesTrue C msg.apdu propEnd := by
  constructor
  · rintro ⟨oid', state', propEnd', addressed, hsets⟩
    obtain ⟨-, -, -, rfl⟩ := h.unique addressed
    exact hsets
  · exact fun hsets => ⟨oid, state, propEnd, h, hsets⟩

theorem writeStep_inService_iff (h : InService objects)
    (hstep : writeStep C config objects msg = some objects') :
    InService objects' ↔ ¬ SetsOutOfService C config objects msg := by
  obtain ⟨⟨after, sent⟩, hhandle, rfl⟩ := writeStep_eq_some.mp hstep
  by_cases haddressed : ∃ oid state propEnd, Addressed C config msg objects oid state 81 propEnd
  · obtain ⟨oid, state, propEnd, addressed⟩ := haddressed
    obtain ⟨id, state', -, hstate', hhandle'⟩ := addressed.handle_outOfService
    obtain ⟨rfl, -⟩ := Prod.mk.inj (Except.ok.inj (hhandle.symm.trans hhandle'))
    rw [h.update, addressed.sets_iff]
    exact writeOutOfService_clear_iff hstate' (h _ _ addressed.found)
  · have hsets : ¬ SetsOutOfService C config objects msg := by
      rintro ⟨oid, state, propEnd, addressed, -⟩
      exact haddressed ⟨oid, state, propEnd, addressed⟩
    refine iff_of_true ?_ hsets
    cases write_cases hhandle with
    | ignored | refused => exact h
    | presentValue _ addressed =>
      rw [h.update, ObjectState.writePresentValue_outOfService]
      exact h _ _ addressed.found
    | outOfService _ _ addressed => exact absurd ⟨_, _, _, addressed⟩ haddressed

theorem not_sets_of_stuck (hstep : writeStep C config objects msg = none) :
    ¬ SetsOutOfService C config objects msg := by
  rintro ⟨oid, state, propEnd, addressed, -⟩
  obtain ⟨id, state', -, -, hhandle⟩ := addressed.handle_outOfService
  simp [writeStep, hhandle, Except.toOption] at hstep

/-- Along a sequence of WriteProperties Status_Flags agrees with Out_Of_Service exactly
if none of them sets Out_Of_Service. -/
theorem status_flags_agree_iff (hC : C.EncodesFlags) {d : Device} (h : Device.start C = .ok d)
    (config : LocalDeviceConfig) (msgs : List ReceivedApdu) :
    Runs.Always (writeStep C config) d.objects msgs (AllFlagsAgree C) ↔
      Runs.Each (writeStep C config) d.objects msgs fun objects msg =>
        ¬ SetsOutOfService C config objects msg := by
  have hagree : AllFlagsAgree C = InService := by
    funext objects
    simp only [AllFlagsAgree, InService, flagsAgree_iff hC]
  have hany : Runs.Always (writeStep C config) d.objects msgs fun _ => True :=
    fun _ _ _ _ => trivial
  rw [hagree]
  exact Runs.always_iff_each (fun _ _ _ _ hclear hstep => writeStep_inService_iff hclear hstep)
    (fun _ _ _ _ hstep => not_sets_of_stuck hstep) hany (start_inService h)

end

/-- WriteProperty to Out_Of_Service of AO-1, at priority 8. -/
def outOfServiceRequest (octet : UInt8) : ReceivedApdu where
  apdu := [0x00, 0x05, 0x01, 0x0F, 0x0C, 0x00, 0x40, 0x00, 0x01, 0x19, 0x51] ++
    [0x29, octet, 0x39, 0x08]
  sourceMac := [0x01]
  sourceNetwork := none

theorem status_flags_agree_in_service :
    ∃ d, Device.start .standard = .ok d ∧
      Runs.Always (writeStep .standard defaultDevice) d.objects [outOfServiceRequest 0]
        (AllFlagsAgree .standard) := by
  refine ⟨_, rfl, (status_flags_agree_iff Codec.standard_encodesFlags rfl _ _).mpr ?_⟩
  refine Runs.each_cons.mpr ⟨?_, fun _ _ => Runs.each_nil⟩
  rintro ⟨oid, state, propEnd, addressed, _, _, second, -, -, -, hsecond, hne⟩
  have hprop : writePropId (outOfServiceRequest 0).apdu = .ok (some (81, 11)) := rfl
  obtain rfl : 11 = propEnd := by
    simpa using (hprop.symm.trans addressed.property)
  exact hne (Option.some.inj hsecond).symm

/-- With AO-1 out of service, Out_Of_Service reads true and the flag reads clear. -/
theorem out_of_service_flag_reads_clear :
    ∃ d objects state flags value, Device.start .standard = .ok d ∧
      Runs.after (writeStep .standard defaultDevice) d.objects [outOfServiceRequest 1] =
        some objects ∧
      objects ⟨.analogOutput, 1⟩ = some state ∧
      objectValueBytes .standard state 111 = .ok flags ∧
      readBitString flags = some [false, false, false, false] ∧
      objectValueBytes .standard state 81 = .ok value ∧ readBoolean value = some true ∧
      ¬ Runs.Always (writeStep .standard defaultDevice) d.objects [outOfServiceRequest 1]
        (AllFlagsAgree .standard) := by
  refine ⟨_, _, _, _, _, rfl, rfl, rfl, rfl, rfl, rfl, rfl, ?_⟩
  intro h
  have hflags := h _ (List.prefix_refl _) _ rfl ⟨.analogOutput, 1⟩ _ rfl
  cases (flagsAgree_iff Codec.standard_encodesFlags _).mp hflags

end BacnetBridge
