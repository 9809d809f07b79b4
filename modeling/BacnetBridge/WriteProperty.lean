import BacnetBridge.LocalDevice
import BacnetBridge.Runs

/-! What a WriteProperty does to the objects, and when their present values stay
what their priority arrays command. -/
namespace BacnetBridge

/-! ## Commanded values -/

namespace ObjectState

/-- The present value is the one in the lowest slot that is not empty, or the
relinquish default when all are. -/
def Commanded (s : ObjectState) : Prop :=
  (∃ i : Fin 16, s.priorityArray[i] = some s.presentValue ∧
      ∀ j : Fin 16, j < i → s.priorityArray[j] = none) ∨
    (∀ i : Fin 16, s.priorityArray[i] = none) ∧ s.presentValue = s.relinquishDefault

/-- The first occupied slot, searched for in order. -/
theorem findSome_slots_iff {slots : Vector (Option F32) 16} {v : F32} :
    slots.toList.findSome? id = some v ↔
      ∃ i : Fin 16, slots[i] = some v ∧ ∀ j : Fin 16, j < i → slots[j] = none := by
  rw [List.findSome?_eq_some_iff]
  constructor
  · rintro ⟨lower, found, higher, hsplit, hfound, hlower⟩
    have hlen : lower.length < 16 := by
      have := congrArg List.length hsplit
      simp at this
      omega
    have hslot (j : Nat) (hj : j < 16) : (lower ++ found :: higher)[j]? = some slots[j] := by
      rw [← hsplit]
      simp [hj]
    refine ⟨⟨lower.length, hlen⟩, ?_, fun j hj => ?_⟩
    · have := hslot _ hlen
      simp_all
    · have hj : j.val < lower.length := hj
      have := hslot j j.isLt
      rw [List.getElem?_append_left hj, List.getElem?_eq_getElem hj] at this
      exact (Option.some.inj this).symm.trans (hlower _ (List.getElem_mem hj))
  · rintro ⟨i, hi, hlower⟩
    refine ⟨slots.toList.take i, slots[i], slots.toList.drop (i + 1), ?_, hi, fun x hx => ?_⟩
    · have hi' : i.val < slots.toList.length := by simp
      rw [show slots[i] = slots.toList[i.val] by simp, ← List.drop_eq_getElem_cons,
        List.take_append_drop]
    · obtain ⟨j, hj, rfl⟩ := List.getElem_of_mem hx
      have hlt : j < i.val := by
        simp at hj
        omega
      simpa using hlower ⟨j, by omega⟩ hlt

theorem commanded_iff {s : ObjectState} : s.Commanded ↔ s.presentValue = s.resolvePresentValue := by
  have hnone : s.priorityArray.toList.findSome? id = none ↔
      ∀ i : Fin 16, s.priorityArray[i] = none := by
    rw [List.findSome?_eq_none_iff]
    simp only [Vector.mem_toList_iff, Vector.mem_iff_getElem]
    constructor
    · exact fun h i => h _ ⟨i, i.isLt, rfl⟩
    · rintro h x ⟨i, hi, rfl⟩
      exact h ⟨i, hi⟩
  unfold Commanded resolvePresentValue
  rw [List.head?_filterMap, ← findSome_slots_iff, ← hnone]
  cases s.priorityArray.toList.findSome? id with
  | none => simp
  | some v => simp [eq_comm]

theorem Commanded.eq {s : ObjectState} (h : s.Commanded) :
    s.presentValue = s.resolvePresentValue := commanded_iff.mp h

theorem updatePriority_commanded (s : ObjectState) {priority : Nat} (value : Option F32)
    (h : 1 ≤ priority ∧ priority ≤ 16) : (s.updatePriority priority value).Commanded := by
  rw [commanded_iff, updatePriority, dif_pos h]
  rfl

/-- A value written without a priority keeps the object commanded only if it is
the value that the slots command. -/
theorem direct_commanded_iff {s : ObjectState} {v : F32} :
    ({ s with presentValue := v } : ObjectState).Commanded ↔ v = s.resolvePresentValue :=
  commanded_iff

theorem outOfService_commanded {s : ObjectState} (h : s.Commanded) (outOfService : Bool) :
    ({ s with outOfService } : ObjectState).Commanded := h

end ObjectState

theorem makeObject_commanded (objectType : ObjectType) (inst : UInt32) :
    (makeObject objectType inst).Commanded := by
  rw [ObjectState.commanded_iff]
  rfl

def AllCommanded (objects : Objects) : Prop :=
  ∀ oid state, objects oid = some state → state.Commanded

theorem AllCommanded.update {objects : Objects} (h : AllCommanded objects)
    (oid : ObjectIdentifier) {state : ObjectState} (hs : state.Commanded) :
    AllCommanded (Function.update objects oid (some state)) := (forall_stored_iff h).mpr hs

theorem start_allCommanded {C : Codec} {d : Device} (h : Device.start C = .ok d) :
    AllCommanded d.objects :=
  Device.start_forall h fun _ objectType _ _ => makeObject_commanded objectType 1

/-! ## One WriteProperty -/

section

variable (C : Codec) (config : LocalDeviceConfig) (msg : ReceivedApdu) (objects : Objects)

/-- The message names a property of an object that is there and is not the
Device; what it writes starts at `propEnd`. -/
structure Addressed (oid : ObjectIdentifier) (state : ObjectState) (propId : UInt16)
    (propEnd : Nat) : Prop where
  length : 14 ≤ msg.apdu.length
  target : parseOidFromRequest C msg.apdu = .ok (some oid)
  device : ∃ deviceOid, C.oidNew .device config.deviceId = some deviceOid ∧ oid ≠ deviceOid
  property : writePropId msg.apdu = .ok (some (propId, propEnd))
  found : objects oid = some state

/-- All that a WriteProperty can do to the objects, and what it is answered. -/
inductive Write : Objects → List Sent → Prop
  | ignored : Write objects []
  | refused (invokeId : UInt8) (errorClass : ErrorClass) (errorCode : ErrorCode) :
      Write objects (sendError C config msg invokeId .writeProperty errorClass errorCode)
  | presentValue {oid : ObjectIdentifier} {state : ObjectState} {propEnd : Nat}
      {value : Option F32} {priority : UInt8} (invokeId : UInt8)
      (addressed : Addressed C config msg objects oid state 85 propEnd)
      (parsed : parseWritePropertyValue C msg.apdu propEnd = .ok (some (value, priority))) :
      Write (Function.update objects oid (some (state.writePresentValue value priority)))
        (sendSimpleAck C config msg invokeId 0x0F)
  | outOfService {oid : ObjectIdentifier} {state : ObjectState} {propEnd : Nat}
      (outOfService : Bool) (invokeId : UInt8)
      (addressed : Addressed C config msg objects oid state 81 propEnd) :
      Write (Function.update objects oid (some { state with outOfService }))
        (sendSimpleAck C config msg invokeId 0x0F)

end

variable {C : Codec} {config : LocalDeviceConfig} {msg : ReceivedApdu} {objects : Objects}

theorem Addressed.handle {oid : ObjectIdentifier} {state : ObjectState} {propId : UInt16}
    {propEnd : Nat} (h : Addressed C config msg objects oid state propId propEnd) :
    ∃ invokeId, index msg.apdu 2 = .ok invokeId ∧ handleWriteProperty C config msg objects =
      writeObject C config msg objects invokeId oid state propId propEnd := by
  obtain ⟨deviceOid, hdevice, hne⟩ := h.device
  have hlen := h.length
  refine ⟨_, index_of_lt (by omega), ?_⟩
  unfold handleWriteProperty
  rw [if_neg (by omega), index_of_lt (by omega), h.target]
  simp only [bind, Except.bind, hdevice, hne, if_false, h.property, h.found]

theorem writeOutOfService_ok {state state' : ObjectState} {apdu : Octets} {propEnd : Nat}
    (h : writeOutOfService C state apdu propEnd = .ok state') :
    ∃ outOfService, state' = { state with outOfService } := by
  unfold writeOutOfService at h
  split at h
  · exact ⟨_, (Except.ok.inj h).symm⟩
  split at h
  · split at h
    · obtain ⟨b, -, h⟩ := ok_of_bind h
      exact ⟨_, (Except.ok.inj h).symm⟩
    · exact ⟨_, (Except.ok.inj h).symm⟩
  · exact ⟨_, (Except.ok.inj h).symm⟩

theorem writeObject_cases {objects' : Objects} {sent : List Sent} {invokeId : UInt8}
    {oid : ObjectIdentifier} {state : ObjectState} {propId : UInt16} {propEnd : Nat}
    (addressed : Addressed C config msg objects oid state propId propEnd)
    (h : writeObject C config msg objects invokeId oid state propId propEnd =
      .ok (objects', sent)) : Write C config msg objects objects' sent := by
  unfold writeObject at h
  split at h
  · rename_i hprop
    subst hprop
    obtain ⟨parsed, hparsed, h⟩ := ok_of_bind h
    cases parsed with
    | none =>
      cases h
      exact .refused ..
    | some parsed =>
      cases h
      exact .presentValue invokeId addressed hparsed
  split at h
  · rename_i hprop
    subst hprop
    obtain ⟨state', hstate', h⟩ := ok_of_bind h
    obtain ⟨outOfService, rfl⟩ := writeOutOfService_ok hstate'
    cases h
    exact .outOfService outOfService invokeId addressed
  · cases h
    exact .refused ..

theorem write_cases {objects' : Objects} {sent : List Sent}
    (h : handleWriteProperty C config msg objects = .ok (objects', sent)) :
    Write C config msg objects objects' sent := by
  unfold handleWriteProperty at h
  split at h
  · cases h
    exact .ignored
  rename_i hlen
  obtain ⟨invokeId, -, h⟩ := ok_of_bind h
  obtain ⟨requestOid, htarget, h⟩ := ok_of_bind h
  split at h
  · cases h
    exact .ignored
  split at h
  · cases h
    exact .ignored
  rename_i oid deviceOid hdevice
  split at h
  · cases h
    exact .refused ..
  rename_i hne
  obtain ⟨found, hproperty, h⟩ := ok_of_bind h
  split at h
  · cases h
    exact .ignored
  split at h
  · cases h
    exact .refused ..
  rename_i state hfound
  exact writeObject_cases ⟨by omega, htarget, ⟨deviceOid, hdevice, hne⟩, hproperty, hfound⟩ h

/-! ## Runs -/

/-- The objects after a WriteProperty. -/
def writeStep (C : Codec) (config : LocalDeviceConfig) (objects : Objects) (msg : ReceivedApdu) :
    Option Objects :=
  (handleWriteProperty C config msg objects).toOption.map (·.1)

/-- An accepted write of a value to Present_Value whose priority is missing or
is none of 1 to 16. -/
def DirectWrite (C : Codec) (config : LocalDeviceConfig) (objects : Objects) (msg : ReceivedApdu)
    (oid : ObjectIdentifier) (state : ObjectState) (v : F32) : Prop :=
  ∃ propEnd priority, Addressed C config msg objects oid state 85 propEnd ∧
    parseWritePropertyValue C msg.apdu propEnd = .ok (some (some v, priority)) ∧
    ¬ (1 ≤ priority ∧ priority ≤ 16)

theorem DirectWrite.step {oid : ObjectIdentifier} {state : ObjectState} {v : F32}
    (h : DirectWrite C config objects msg oid state v) : writeStep C config objects msg =
      some (Function.update objects oid (some { state with presentValue := v })) := by
  obtain ⟨propEnd, priority, haddressed, hparsed, hpriority⟩ := h
  obtain ⟨invokeId, -, hwrite⟩ := haddressed.handle
  rw [writeStep, hwrite, writeObject, if_pos rfl, hparsed]
  simp [bind, Except.bind, pure, Except.pure, Except.toOption, ObjectState.writePresentValue,
    hpriority]

/-- What a WriteProperty leaves is commanded if every direct write writes the
value that the object resolves to. -/
theorem writeStep_commanded {objects' : Objects} (h : AllCommanded objects)
    (hstep : writeStep C config objects msg = some objects')
    (hdirect : ∀ oid state v, DirectWrite C config objects msg oid state v →
      v = state.resolvePresentValue) : AllCommanded objects' := by
  unfold writeStep at hstep
  cases hhandle : handleWriteProperty C config msg objects with
  | error e => simp [hhandle, Except.toOption] at hstep
  | ok result =>
    obtain ⟨after, sent⟩ := result
    obtain rfl : after = objects' := by simpa [hhandle, Except.toOption] using hstep
    cases write_cases hhandle with
    | ignored => exact h
    | refused => exact h
    | @presentValue oid state propEnd value priority invokeId addressed parsed =>
      apply h.update
      unfold ObjectState.writePresentValue
      split
      · rename_i hpriority
        exact ObjectState.updatePriority_commanded _ _ ⟨hpriority.1, hpriority.2⟩
      · rename_i hpriority
        cases value with
        | none => exact h _ _ addressed.found
        | some v =>
          exact ObjectState.direct_commanded_iff.mpr
            (hdirect oid state v ⟨propEnd, priority, addressed, parsed, hpriority⟩)
    | outOfService outOfService invokeId addressed =>
      exact h.update _ (ObjectState.outOfService_commanded (h _ _ addressed.found) outOfService)

/-- Along a sequence of WriteProperties every present value is the commanded one
exactly if each direct write writes the value that its object resolves to. -/
theorem present_value_commanded_iff {d : Device} (h : Device.start C = .ok d)
    (msgs : List ReceivedApdu) :
    Runs.Always (writeStep C config) d.objects msgs AllCommanded ↔
      Runs.Each (writeStep C config) d.objects msgs fun objects msg =>
        ∀ oid state v, DirectWrite C config objects msg oid state v →
          v = state.resolvePresentValue := by
  have hany : Runs.Always (writeStep C config) d.objects msgs fun _ => True :=
    fun _ _ _ _ => trivial
  refine Runs.always_iff_each ?_ ?_ hany (start_allCommanded h)
  · intro objects msg objects' _ hinv hstep
    refine ⟨fun hinv' oid state v hdirect => ?_, writeStep_commanded hinv hstep⟩
    obtain rfl := Option.some.inj (hdirect.step.symm.trans hstep)
    have hcommanded := hinv' oid _ (Function.update_self ..)
    exact ObjectState.direct_commanded_iff.mp hcommanded
  · intro objects msg _ _ hstep oid state v hdirect
    cases hdirect.step.symm.trans hstep

/-- WriteProperty of 42.5 to Present_Value of AO-1. -/
def writeRequest (priority : Octets) : ReceivedApdu where
  apdu := [0x00, 0x05, 0x01, 0x0F, 0x0C, 0x00, 0x40, 0x00, 0x01, 0x19, 0x55] ++
    [0x2D, 0x05, 0x44, 0x42, 0x2A, 0x00, 0x00] ++ priority
  sourceMac := [0x01]
  sourceNetwork := none

theorem present_value_commanded_by_priority :
    ∃ d, Device.start .standard = .ok d ∧
      Runs.Always (writeStep .standard defaultDevice) d.objects [writeRequest [0x39, 0x08]]
        AllCommanded := by
  refine ⟨_, rfl, (present_value_commanded_iff rfl _).mpr ?_⟩
  refine Runs.each_cons.mpr ⟨?_, fun _ _ => Runs.each_nil⟩
  rintro oid state v ⟨propEnd, priority, haddressed, hparsed, hpriority⟩
  have hprop : writePropId (writeRequest [0x39, 0x08]).apdu = .ok (some (85, 11)) := rfl
  obtain rfl : 11 = propEnd := by
    simpa using (hprop.symm.trans haddressed.property)
  have hvalue : parseWritePropertyValue .standard (writeRequest [0x39, 0x08]).apdu 11 =
      .ok (some (some ⟨0x422A0000⟩, 8)) := rfl
  obtain ⟨-, rfl⟩ : _ ∧ 8 = priority := by
    simpa using (hvalue.symm.trans hparsed)
  exact absurd (by decide) hpriority

theorem write_without_priority_is_not_commanded :
    ∃ d objects, Device.start .standard = .ok d ∧
      Runs.after (writeStep .standard defaultDevice) d.objects [writeRequest []] = some objects ∧
      ¬ AllCommanded objects := by
  refine ⟨_, _, rfl, rfl, ?_⟩
  intro h
  have hcommanded := h ⟨.analogOutput, 1⟩ _ rfl
  exact absurd hcommanded.eq (by decide)

end BacnetBridge
