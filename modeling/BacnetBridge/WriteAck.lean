import BacnetBridge.PriorityArray
import BacnetBridge.Survival
import BacnetBridge.WriteRequest

/-! Whether an acknowledged WriteProperty took effect. The parameters stand where the
parser looks for them: the value under context tag 2, then the priority under
context tag 3. What they are is read off their octets as the standard has it. -/
namespace BacnetBridge

/-! ## What a request carries -/

/-- A value for Present_Value: a Null or a Real that fills the contents. A Null under
a context tag has none. -/
def analogValue (contents : Octets) : Option (Option F32) :=
  if contents = [] then some none else readSlotValue contents

/-- A value for Out_Of_Service: 0 or 1 as a Boolean under a context tag is, or the
octet that a Boolean under its application tag is. -/
def booleanValue (contents : Octets) : Option Bool :=
  if contents = [0x00] ∨ contents = [0x10] then some false
  else if contents = [0x01] ∨ contents = [0x11] then some true
  else none

section

variable (apdu : Octets) (propEnd : Nat)

/-- The contents of context tag 2, and the octets behind them. -/
def valueParameter : Option (Octets × Octets) := Tags.context 2 (apdu.drop propEnd)

def writtenValue : Option (Option F32) := do
  let (contents, _) ← valueParameter apdu propEnd
  analogValue contents

def writtenBoolean : Option Bool := do
  let (contents, _) ← valueParameter apdu propEnd
  booleanValue contents

/-- The priority behind the value: the number under context tag 3, or 16 when
there is none. One without octets, or with too few, is 0. -/
def writtenPriority : Nat :=
  match valueParameter apdu propEnd with
  | none => 16
  | some (_, rest) =>
    match Tags.decode rest 0 with
    | none => 16
    | some (tag3, start) =>
      if tag3.isContext 3 then (Tags.unsigned rest start tag3.length).getD 0 else 16

end

/-- A cut-off Real is no value, whatever stands behind its parameter. -/
example : writtenValue [0x2A, 0x44, 0x42, 0x39, 0x08, 0x00] 0 = none ∧
    writtenPriority [0x2A, 0x44, 0x42, 0x39, 0x08, 0x00] 0 = 8 := by decide

section

variable (C : Codec) (config : LocalDeviceConfig) (msg : ReceivedApdu) (objects : Objects)

/-- The addressed property holds what the request carried. -/
inductive TookEffect (objects' : Objects) : Prop
  | presentValue {oid : ObjectIdentifier} {state state' : ObjectState} {propEnd : Nat}
      {value : Option F32} {slot : Fin 16}
      (addressed : Addressed C config msg objects oid state 85 propEnd)
      (carried : writtenValue msg.apdu propEnd = some value)
      (priority : writtenPriority msg.apdu propEnd = slot + 1)
      (found : objects' oid = some state') (stored : state'.priorityArray.get slot = value)
  | outOfService {oid : ObjectIdentifier} {state state' : ObjectState} {propEnd : Nat}
      {value : Bool} (addressed : Addressed C config msg objects oid state 81 propEnd)
      (carried : writtenBoolean msg.apdu propEnd = some value)
      (priority : 1 ≤ writtenPriority msg.apdu propEnd ∧ writtenPriority msg.apdu propEnd ≤ 16)
      (found : objects' oid = some state') (stored : state'.outOfService = value)

/-- A SimpleAck is sent only if the write took effect. -/
def AcksTruthfully (objects' : Objects) (sent : List Sent) : Prop :=
  (∃ frame ∈ sent, ∃ id, frame.IsWriteAck id) → TookEffect C config msg objects objects'

/-- Where the parser accepts a value for Present_Value it is one, and the octet that it
reads for the priority names the slot that the request is for, unless that slot holds
the value already. -/
def PriorityRead : Prop :=
  ∀ oid state propEnd value priority, Addressed C config msg objects oid state 85 propEnd →
    parseWritePropertyValue C msg.apdu propEnd = .ok (some (value, priority)) →
    ∃ (carried : Option F32) (slot : Fin 16), writtenValue msg.apdu propEnd = some carried ∧
      writtenPriority msg.apdu propEnd = slot + 1 ∧
      (priority.toNat = slot + 1 ∨ state.priorityArray.get slot = carried)

/-- A value for Out_Of_Service is a Boolean, with a priority in range behind it if any,
and the octet behind the first of its header is zero exactly if it is false. -/
def BooleanRead : Prop :=
  ∀ oid state propEnd, Addressed C config msg objects oid state 81 propEnd →
    (1 ≤ writtenPriority msg.apdu propEnd ∧ writtenPriority msg.apdu propEnd ≤ 16) ∧
    ∃ value second, writtenBoolean msg.apdu propEnd = some value ∧
      msg.apdu[propEnd + 1]? = some second ∧ value = decide (second ≠ 0)

end

section

variable {C : Codec} {config : LocalDeviceConfig} {msg : ReceivedApdu} {objects : Objects}

theorem Addressed.unique {oid oid' : ObjectIdentifier} {state state' : ObjectState}
    {propId propId' : UInt16} {propEnd propEnd' : Nat}
    (h : Addressed C config msg objects oid state propId propEnd)
    (h' : Addressed C config msg objects oid' state' propId' propEnd') :
    oid = oid' ∧ state = state' ∧ propId = propId' ∧ propEnd = propEnd' := by
  obtain rfl : oid = oid' := by
    simpa using h.target.symm.trans h'.target
  obtain ⟨rfl, rfl⟩ : propId = propId' ∧ propEnd = propEnd' := by
    simpa using h.property.symm.trans h'.property
  exact ⟨rfl, Option.some.inj (h.found.symm.trans h'.found), rfl, rfl⟩

/-! ## Present_Value -/

/-- The header is where the parser decodes it, and the contents behind it. -/
theorem valueParameter_eq_some (hT : C.DecodesTags) {apdu contents rest : Octets} {propEnd : Nat}
    (h : valueParameter apdu propEnd = some (contents, rest))
    (hshort : contents.length ≤ 2 ^ 20) :
    ∃ tag2 pos2, C.decodeTag apdu propEnd = some (tag2, pos2) ∧ tag2.isContext 2 ∧
      propEnd < pos2 ∧ tag2.length = contents.length ∧ pos2 + tag2.length ≤ apdu.length ∧
      contents = (apdu.drop pos2).take tag2.length := by
  obtain ⟨tag2, hprimitive, hclass, hnumber⟩ := Tags.valueUnder_eq_some h
  obtain ⟨hopening, hclosing⟩ := Tags.primitive_plain hprimitive
  obtain ⟨hlength, -, -⟩ := Tags.length_of_primitive hprimitive
  obtain ⟨start, hdecode, hroom, hcontents, -⟩ := Tags.primitive_eq_some hprimitive
  have hdecode' := (Tags.standsAt_drop apdu propEnd).decode hdecode
  obtain ⟨hbehind, -⟩ : 0 < start ∧ start ≤ 0 + 7 := Tags.decode_bounds hdecode
  rw [List.length_drop] at hroom
  rw [List.drop_drop] at hcontents
  refine ⟨tag2, propEnd + start, hT _ _ _ hdecode' ?_ (.inl hclass), ?_, by omega, hlength.symm,
    by omega, hcontents⟩
  · exact hlength ▸ hshort
  · simp [Tags.Tag.isContext, hclass, hnumber, hopening, hclosing]

theorem readSlotValue_eq_some {contents : Octets} {value : Option F32}
    (h : readSlotValue contents = some value) :
    (Tags.application 0 contents = some ([], []) ∧ value = none) ∨
    ∃ b₀ b₁ b₂ b₃, Tags.application 4 contents = some ([b₀, b₁, b₂, b₃], []) ∧
      value = some (.fromBeBytes b₀ b₁ b₂ b₃) := by
  unfold readSlotValue at h
  split at h
  · rename_i hnull
    exact .inl ⟨hnull, (Option.some.inj h).symm⟩
  · rename_i hreal _
    exact .inr ⟨_, _, _, _, hreal, (Option.some.inj h).symm⟩
  · cases h

/-- A value that fills the contents is decoded where they stand. -/
theorem decode_contents (hT : C.DecodesTags) {apdu contents value : Octets} {pos2 length : Nat}
    {number : Nat} (hcontents : contents = (apdu.drop pos2).take length)
    (hvalue : Tags.application number contents = some (value, []))
    (hnotBoolean : number ≠ 1) (hshort : value.length ≤ 2 ^ 20) :
    ∃ tag appPos, C.decodeTag apdu pos2 = some (tag, appPos) ∧ tag.number = number ∧
      tag.length = value.length ∧ appPos + value.length ≤ apdu.length ∧
      value = (apdu.drop appPos).take value.length := by
  obtain ⟨tag, hprimitive, -, hnumber⟩ := Tags.valueUnder_eq_some hvalue
  obtain ⟨hlength, -, -⟩ := Tags.length_of_primitive hprimitive
  obtain ⟨start, hdecode, hroom, hoctets, -⟩ := Tags.primitive_eq_some hprimitive
  have hstands : Tags.StandsAt contents apdu pos2 := by
    rw [hcontents]
    exact Tags.standsAt_take_drop apdu pos2 length
  have hinside : contents.length ≤ length ∧ contents.length ≤ apdu.length - pos2 := by
    rw [hcontents, List.length_take, List.length_drop]
    omega
  refine ⟨tag, pos2 + start, hT _ _ _ (hstands.decode hdecode) ?_ (.inr ?_), hnumber,
    hlength.symm, ?_, ?_⟩
  · exact hlength ▸ hshort
  · exact hnumber ▸ hnotBoolean
  · obtain ⟨hbehind, -⟩ : 0 < start ∧ start ≤ 0 + 7 := Tags.decode_bounds hdecode
    omega
  · rw [hlength, ← List.drop_drop]
    conv_lhs => rw [hoctets, hcontents, List.drop_take, List.take_take]
    rw [Nat.min_eq_left (by omega)]

theorem parseTaggedValue_eq (hT : C.DecodesTags) {apdu contents : Octets} {tag2 : Tags.Tag}
    {pos2 : Nat} {carried : Option F32} (hlength : tag2.length = contents.length)
    (hroom : pos2 + tag2.length ≤ apdu.length)
    (hcontents : contents = (apdu.drop pos2).take tag2.length)
    (hread : analogValue contents = some carried) :
    parseTaggedValue C apdu tag2 pos2 = .ok (some carried) := by
  unfold analogValue at hread
  unfold parseTaggedValue
  split at hread
  · rename_i hnil
    obtain rfl := Option.some.inj hread
    rw [if_pos (by rw [hlength, hnil]; rfl)]
    rfl
  rename_i hne
  have hsome : tag2.length ≠ 0 := by
    rw [hlength]
    exact fun hzero => hne (List.length_eq_zero_iff.mp hzero)
  rw [if_neg hsome, if_neg (by omega)]
  rcases readSlotValue_eq_some hread with ⟨hnull, rfl⟩ | ⟨b₀, b₁, b₂, b₃, hreal, rfl⟩
  · obtain ⟨tag, appPos, hdecode, hnumber, -, -, -⟩ :=
      decode_contents hT hcontents hnull (by decide) (Nat.zero_le _)
    simp only [hdecode, hnumber, if_true]
    rfl
  · obtain ⟨tag, appPos, hdecode, hnumber, hfour, hend, hoctets⟩ :=
      decode_contents hT hcontents hreal (by decide) (by simp)
    simp only [List.length_cons, List.length_nil, Nat.zero_add, Nat.reduceAdd] at hfour hend hoctets
    have hslice : slice apdu appPos (appPos + 4) = .ok [b₀, b₁, b₂, b₃] := by
      rw [slice_of_le (by omega) hend, Nat.add_sub_cancel_left, ← hoctets]
    have hfits : ¬ (tag.length ≠ 4 ∨ appPos + 4 > apdu.length) := by omega
    simp only [hdecode, hnumber, Nat.reduceEqDiff, if_false, if_true, if_neg hfits, hslice]
    rfl

/-- What the request carries is what the parser makes of it. -/
theorem parse_of_written (hT : C.DecodesTags) {apdu : Octets} {propEnd : Nat}
    {carried value : Option F32} {priority : UInt8}
    (hcarried : writtenValue apdu propEnd = some carried)
    (hparsed : parseWritePropertyValue C apdu propEnd = .ok (some (value, priority))) :
    value = carried := by
  obtain ⟨⟨contents, rest⟩, hparameter, hread⟩ := Option.bind_eq_some_iff.mp hcarried
  have hshort : contents.length ≤ 11 := by
    dsimp only [analogValue] at hread
    split at hread
    · rename_i hnil
      simp [hnil]
    · exact length_of_readSlotValue hread
  obtain ⟨tag2, pos2, hdecode, hcontext, -, hlength, hroom, hcontents⟩ :=
    valueParameter_eq_some hT hparameter (by omega)
  have hvalue := parseTaggedValue_eq hT hlength hroom hcontents hread
  unfold parseWritePropertyValue at hparsed
  simp only [hdecode, hcontext, hvalue] at hparsed
  obtain ⟨_, hfound, hparsed⟩ := ok_of_bind hparsed
  cases hfound
  obtain ⟨_, -, hparsed⟩ := ok_of_bind hparsed
  cases hparsed
  rfl

theorem Addressed.handle_presentValue {oid : ObjectIdentifier} {state : ObjectState}
    {propEnd : Nat} {value : Option F32} {priority : UInt8}
    (h : Addressed C config msg objects oid state 85 propEnd)
    (hparsed : parseWritePropertyValue C msg.apdu propEnd = .ok (some (value, priority))) :
    ∃ id, msg.apdu[2]? = some id ∧ handleWriteProperty C config msg objects =
      .ok (Function.update objects oid (some (state.writePresentValue value priority)),
        sendSimpleAck C config msg id 0x0F) := by
  obtain ⟨id, hid, hhandle⟩ := h.handle
  refine ⟨id, index_eq_ok_iff.mp hid, ?_⟩
  rw [hhandle, writeObject, if_pos rfl, hparsed]
  rfl

/-- The slot holds the value after the write if it is the one written, or held it
before. -/
theorem writePresentValue_slot_iff (state : ObjectState) (value : Option F32) (priority : UInt8)
    (slot : Fin 16) :
    (state.writePresentValue value priority).priorityArray.get slot = value ↔
      priority.toNat = slot + 1 ∨ state.priorityArray.get slot = value := by
  have hslot := slot.isLt
  by_cases hrange : 1 ≤ priority ∧ priority ≤ 16
  · have hlow := UInt8.le_iff_toNat_le.mp hrange.1
    have hhigh := UInt8.le_iff_toNat_le.mp hrange.2
    simp only [UInt8.reduceToNat] at hlow hhigh
    have harray : (state.writePresentValue value priority).priorityArray =
        state.priorityArray.set (priority.toNat - 1) value (by omega) := by
      unfold ObjectState.writePresentValue ObjectState.updatePriority
      rw [if_pos hrange, dif_pos ⟨hlow, hhigh⟩]
    have hget : ∀ slots : Vector (Option F32) 16, slots.get slot = slots[slot.val] := fun _ => rfl
    rw [harray, hget, hget, Vector.getElem_set]
    by_cases heq : priority.toNat - 1 = slot
    · have hnamed : priority.toNat = slot + 1 := by omega
      simp [hnamed]
    · have hother : priority.toNat ≠ slot + 1 := by omega
      simp [heq, hother]
  · have harray : (state.writePresentValue value priority).priorityArray =
        state.priorityArray := by
      unfold ObjectState.writePresentValue
      rw [if_neg hrange]
      cases value <;> rfl
    have hother : priority.toNat ≠ slot + 1 := by
      intro heq
      refine hrange ⟨UInt8.le_iff_toNat_le.mpr ?_, UInt8.le_iff_toNat_le.mpr ?_⟩ <;>
        simp only [UInt8.reduceToNat] <;> omega
    rw [harray]
    simp [hother]

/-! ## Out_Of_Service -/

theorem Addressed.handle_outOfService {oid : ObjectIdentifier} {state : ObjectState}
    {propEnd : Nat} (h : Addressed C config msg objects oid state 81 propEnd) :
    ∃ id state', msg.apdu[2]? = some id ∧
      writeOutOfService C state msg.apdu propEnd = .ok state' ∧
      handleWriteProperty C config msg objects =
        .ok (Function.update objects oid (some state'), sendSimpleAck C config msg id 0x0F) := by
  obtain ⟨id, hid, hhandle⟩ := h.handle
  obtain ⟨state', hstate'⟩ := safe_writeOutOfService C state msg.apdu propEnd
  refine ⟨id, state', index_eq_ok_iff.mp hid, hstate', ?_⟩
  rw [hhandle, writeObject, if_neg (by decide), if_pos rfl, hstate']
  rfl

/-- The handler takes the octet behind the first of the header for the value. -/
theorem writeOutOfService_eq {state : ObjectState} {apdu : Octets} {propEnd : Nat}
    {tag2 : Tags.Tag} {pos2 : Nat} {second : UInt8}
    (hdecode : C.decodeTag apdu propEnd = some (tag2, pos2)) (hcontext : tag2.isContext 2)
    (hlength : tag2.length = 1) (hsecond : apdu[propEnd + 1]? = some second) :
    writeOutOfService C state apdu propEnd =
      .ok { state with outOfService := second ≠ 0 } := by
  obtain ⟨hroom, -⟩ := List.getElem?_eq_some_iff.mp hsecond
  unfold writeOutOfService
  rw [hdecode]
  simp only [hcontext, hlength, and_self, if_true, hroom, index_eq_ok_iff.mpr hsecond]
  rfl

theorem writtenBoolean_eq (hT : C.DecodesTags) {apdu : Octets} {propEnd : Nat} {value : Bool}
    (h : writtenBoolean apdu propEnd = some value) :
    ∃ tag2 pos2 second, C.decodeTag apdu propEnd = some (tag2, pos2) ∧ tag2.isContext 2 ∧
      tag2.length = 1 ∧ apdu[propEnd + 1]? = some second := by
  obtain ⟨⟨contents, rest⟩, hparameter, hread⟩ := Option.bind_eq_some_iff.mp h
  have hone : contents.length = 1 := by
    dsimp only [booleanValue] at hread
    split at hread
    · rename_i hfalse
      rcases hfalse with rfl | rfl <;> rfl
    split at hread
    · rename_i htrue
      rcases htrue with rfl | rfl <;> rfl
    · cases hread
  obtain ⟨tag2, pos2, hdecode, hcontext, hbehind, hlength, hroom, -⟩ :=
    valueParameter_eq_some hT hparameter (by omega)
  exact ⟨tag2, pos2, _, hdecode, hcontext, hlength.trans hone,
    List.getElem?_eq_getElem (by omega)⟩

/-- What is acknowledged is a write to Present_Value that was parsed, or any write
to Out_Of_Service. -/
theorem acked_cases (hE : C.MarksErrors) {objects' : Objects} {sent : List Sent} {frame : Sent}
    {id : UInt8} (h : handleWriteProperty C config msg objects = .ok (objects', sent))
    (hframe : frame ∈ sent) (hack : frame.IsWriteAck id) :
    (∃ oid state propEnd value priority, Addressed C config msg objects oid state 85 propEnd ∧
        parseWritePropertyValue C msg.apdu propEnd = .ok (some (value, priority))) ∨
      ∃ oid state propEnd, Addressed C config msg objects oid state 81 propEnd := by
  cases write_cases h with
  | ignored => cases hframe
  | refused => exact absurd hack (sendError_not_writeAck hE hframe)
  | presentValue _ addressed parsed => exact .inl ⟨_, _, _, _, _, addressed, parsed⟩
  | outOfService _ _ addressed => exact .inr ⟨_, _, _, addressed⟩

/-- A write to Present_Value that is acknowledged has stored what it carried
exactly if it carried a value and the parser reads the priority. -/
theorem tookEffect_presentValue_iff (hT : C.DecodesTags) {oid : ObjectIdentifier}
    {state : ObjectState} {propEnd : Nat} {value : Option F32} {priority : UInt8}
    (h : Addressed C config msg objects oid state 85 propEnd)
    (hparsed : parseWritePropertyValue C msg.apdu propEnd = .ok (some (value, priority))) :
    TookEffect C config msg objects
        (Function.update objects oid (some (state.writePresentValue value priority))) ↔
      ∃ (carried : Option F32) (slot : Fin 16), writtenValue msg.apdu propEnd = some carried ∧
        writtenPriority msg.apdu propEnd = slot + 1 ∧
        (priority.toNat = slot + 1 ∨ state.priorityArray.get slot = carried) := by
  constructor
  · intro htook
    cases htook with
    | @presentValue _ _ _ _ _ slot addressed carried named found stored =>
      obtain ⟨rfl, rfl, -, rfl⟩ := h.unique addressed
      obtain rfl := parse_of_written hT carried hparsed
      rw [Function.update_self] at found
      obtain rfl := Option.some.inj found
      exact ⟨_, slot, carried, named, (writePresentValue_slot_iff ..).mp stored⟩
    | outOfService addressed =>
      obtain ⟨-, -, hprop, -⟩ := h.unique addressed
      cases hprop
  · rintro ⟨carried, slot, hcarried, hnamed, hslot⟩
    obtain rfl := parse_of_written hT hcarried hparsed
    exact .presentValue h hcarried hnamed (Function.update_self ..)
      ((writePresentValue_slot_iff ..).mpr hslot)

/-- A write to Out_Of_Service that is acknowledged has stored what it carried
exactly if the handler reads it. -/
theorem tookEffect_outOfService_iff (hT : C.DecodesTags) {oid : ObjectIdentifier}
    {state state' : ObjectState} {propEnd : Nat}
    (h : Addressed C config msg objects oid state 81 propEnd)
    (hwrite : writeOutOfService C state msg.apdu propEnd = .ok state') :
    TookEffect C config msg objects (Function.update objects oid (some state')) ↔
      (1 ≤ writtenPriority msg.apdu propEnd ∧ writtenPriority msg.apdu propEnd ≤ 16) ∧
      ∃ value second, writtenBoolean msg.apdu propEnd = some value ∧
        msg.apdu[propEnd + 1]? = some second ∧ value = decide (second ≠ 0) := by
  constructor
  · intro htook
    cases htook with
    | presentValue addressed =>
      obtain ⟨-, -, hprop, -⟩ := h.unique addressed
      cases hprop
    | outOfService addressed carried named found stored =>
      obtain ⟨rfl, rfl, -, rfl⟩ := h.unique addressed
      rw [Function.update_self] at found
      obtain rfl := Option.some.inj found
      obtain ⟨tag2, pos2, second, hdecode, hcontext, hlength, hsecond⟩ :=
        writtenBoolean_eq hT carried
      refine ⟨named, _, second, carried, hsecond, ?_⟩
      obtain rfl := Except.ok.inj
        ((writeOutOfService_eq hdecode hcontext hlength hsecond).symm.trans hwrite)
      exact stored.symm
  · rintro ⟨hnamed, value, second, hcarried, hsecond, hsame⟩
    obtain ⟨tag2, pos2, second', hdecode, hcontext, hlength, hsecond'⟩ :=
      writtenBoolean_eq hT hcarried
    obtain rfl := Except.ok.inj
      ((writeOutOfService_eq hdecode hcontext hlength hsecond).symm.trans hwrite)
    exact .outOfService h hcarried hnamed (Function.update_self ..) hsame.symm

end

/-- Every acknowledgement of a write is truthful exactly if, where one can be
encoded, the priority and the Boolean are such as the handler reads them. -/
theorem acked_writes_took_effect_iff {C : Codec} (hT : C.DecodesTags) (hE : C.MarksErrors)
    (config : LocalDeviceConfig) (msg : ReceivedApdu) (objects : Objects) :
    (∀ objects' sent, handleWriteProperty C config msg objects = .ok (objects', sent) →
        AcksTruthfully C config msg objects objects' sent) ↔
      ∀ id, msg.apdu[2]? = some id →
        (C.encodeNpdu (replyNpdu config msg [0x20, id, 0x0F])).isSome →
        PriorityRead C config msg objects ∧ BooleanRead C config msg objects := by
  constructor
  · intro htruthful id hid hencodes
    obtain ⟨buf, hbuf⟩ := Option.isSome_iff_exists.mp hencodes
    have hacked : ∀ id', msg.apdu[2]? = some id' →
        ∃ frame ∈ sendSimpleAck C config msg id' 0x0F, ∃ id, frame.IsWriteAck id := by
      intro id' hid'
      obtain rfl := Option.some.inj (hid.symm.trans hid')
      exact ⟨_, mem_sendUnicast.mpr ⟨buf, hbuf, rfl⟩, id, rfl⟩
    constructor
    · intro oid state propEnd value priority haddressed hparsed
      obtain ⟨id', hid', hhandle⟩ := haddressed.handle_presentValue hparsed
      exact (tookEffect_presentValue_iff hT haddressed hparsed).mp
        (htruthful _ _ hhandle (hacked id' hid'))
    · intro oid state propEnd haddressed
      obtain ⟨id', state', hid', hwrite, hhandle⟩ := haddressed.handle_outOfService
      exact (tookEffect_outOfService_iff hT haddressed hwrite).mp
        (htruthful _ _ hhandle (hacked id' hid'))
  · rintro hread objects' sent hhandle ⟨frame, hframe, ackedId, hack⟩
    have hencodes : ∀ id', frame ∈ sendSimpleAck C config msg id' 0x0F →
        (C.encodeNpdu (replyNpdu config msg [0x20, id', 0x0F])).isSome := by
      intro id' hsent
      obtain ⟨buf, hbuf, -⟩ := mem_sendUnicast.mp hsent
      rw [hbuf]
      rfl
    rcases acked_cases hE hhandle hframe hack with
      ⟨_, _, _, _, _, haddressed, hparsed⟩ | ⟨_, _, _, haddressed⟩
    · obtain ⟨id', hid', hwrite⟩ := haddressed.handle_presentValue hparsed
      obtain ⟨rfl, rfl⟩ := Prod.mk.inj (Except.ok.inj (hhandle.symm.trans hwrite))
      obtain ⟨hpriority, -⟩ := hread id' hid' (hencodes id' hframe)
      exact (tookEffect_presentValue_iff hT haddressed hparsed).mpr
        (hpriority _ _ _ _ _ haddressed hparsed)
    · obtain ⟨id', state', hid', hstate', hwrite⟩ := haddressed.handle_outOfService
      obtain ⟨rfl, rfl⟩ := Prod.mk.inj (Except.ok.inj (hhandle.symm.trans hwrite))
      obtain ⟨-, hboolean⟩ := hread id' hid' (hencodes id' hframe)
      exact (tookEffect_outOfService_iff hT haddressed hstate').mpr
        (hboolean _ _ _ haddressed)

theorem write_with_priority_took_effect :
    ∃ d objects sent, Device.start .standard = .ok d ∧
      handleWriteProperty .standard defaultDevice (writeRequest [0x39, 0x08]) d.objects =
        .ok (objects, sent) ∧
      AcksTruthfully .standard defaultDevice (writeRequest [0x39, 0x08]) d.objects objects
        sent := by
  refine ⟨_, _, _, rfl, rfl, (acked_writes_took_effect_iff Codec.standard_decodesTags
    Codec.standard_marksErrors defaultDevice _ _).mpr ?_ _ _ rfl⟩
  intro id _ _
  have hprop : writePropId (writeRequest [0x39, 0x08]).apdu = .ok (some (85, 11)) := rfl
  constructor
  · intro oid state propEnd value priority haddressed hparsed
    obtain rfl : 11 = propEnd := by
      simpa using (hprop.symm.trans haddressed.property)
    have hvalue : parseWritePropertyValue .standard (writeRequest [0x39, 0x08]).apdu 11 =
        .ok (some (some ⟨0x422A0000⟩, 8)) := rfl
    obtain ⟨-, rfl⟩ : _ ∧ 8 = priority := by
      simpa using (hvalue.symm.trans hparsed)
    exact ⟨_, 7, rfl, rfl, .inl rfl⟩
  · intro oid state propEnd haddressed
    cases hprop.symm.trans haddressed.property

/-- Without a priority the write is acknowledged, and slot 16 stays empty. -/
theorem write_without_priority_acked_in_vain :
    ∃ d objects state npdu buf, Device.start .standard = .ok d ∧
      handleWriteProperty .standard defaultDevice (writeRequest []) d.objects =
        .ok (objects, [.reply npdu buf]) ∧
      npdu.payload = [0x20, 0x01, 0x0F] ∧ objects ⟨.analogOutput, 1⟩ = some state ∧
      state.priorityArray.get 15 = none ∧
      ¬ AcksTruthfully .standard defaultDevice (writeRequest []) d.objects objects
        [.reply npdu buf] := by
  refine ⟨_, _, _, _, _, rfl, rfl, rfl, rfl, rfl, ?_⟩
  intro h
  cases h ⟨_, List.mem_singleton_self _, 0x01, rfl⟩ with
  | @presentValue oid state state' propEnd value slot addressed carried priority found stored =>
    have htarget : parseOidFromRequest .standard (writeRequest []).apdu =
        .ok (some ⟨.analogOutput, 1⟩) := rfl
    obtain rfl : ⟨.analogOutput, 1⟩ = oid := by
      simpa using (htarget.symm.trans addressed.target)
    have hprop : writePropId (writeRequest []).apdu = .ok (some (85, 11)) := rfl
    obtain rfl : 11 = propEnd := by
      simpa using (hprop.symm.trans addressed.property)
    cases carried
    cases found
    have hslot : slot = 15 := Fin.ext (Nat.succ.inj priority.symm)
    subst hslot
    cases stored
  | outOfService addressed =>
    have hprop : writePropId (writeRequest []).apdu = .ok (some (85, 11)) := rfl
    cases hprop.symm.trans addressed.property

end BacnetBridge
