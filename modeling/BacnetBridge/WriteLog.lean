import BacnetBridge.PriorityHistory
import BacnetBridge.RetryCache
import BacnetBridge.WriteAck

/-! The objects as a function of the messages: what all writes so far make of them. -/
namespace BacnetBridge

/-- A write to Present_Value as the handler reads it. -/
abbrev ValueWrite := UInt8 × Option F32

namespace ValueWrite

def HasSlot (w : ValueWrite) : Prop := 1 ≤ w.1 ∧ w.1 ≤ 16

instance (w : ValueWrite) : Decidable w.HasSlot := instDecidableAnd

def call (w : ValueWrite) : PriorityCall := (w.1.toNat, w.2)

/-- A relinquish without a slot does nothing. -/
def takesEffect (w : ValueWrite) : Bool := decide w.HasSlot || w.2.isSome

end ValueWrite

/-- The write to a Present_Value that a message asks for and that is carried out if the
object is there. -/
def requestedWrite (C : Codec) (config : LocalDeviceConfig) (msg : ReceivedApdu) :
    Option (ObjectIdentifier × ValueWrite) := do
  guard (14 ≤ msg.apdu.length)
  guard ((pduTypeAndService msg.apdu).toOption = some (0x00, 0x0F))
  let oid ← (parseOidFromRequest C msg.apdu).toOption.join
  let deviceOid ← C.oidNew .device config.deviceId
  guard (oid ≠ deviceOid)
  let (propId, propEnd) ← (writePropId msg.apdu).toOption.join
  guard (propId = 85)
  let (value, priority) ← (parseWritePropertyValue C msg.apdu propEnd).toOption.join
  return (oid, priority, value)

/-- The writes to one object that the messages ask for. -/
def writesTo (C : Codec) (config : LocalDeviceConfig) (oid : ObjectIdentifier)
    (msgs : List ReceivedApdu) : List ValueWrite :=
  (msgs.filterMap (requestedWrite C config)).filterMap fun w => if w.1 = oid then some w.2 else none

/-! ## A sequence of writes -/

namespace ObjectState

def write (s : ObjectState) (w : ValueWrite) : ObjectState := s.writePresentValue w.2 w.1

def writeAll (s : ObjectState) (writes : List ValueWrite) : ObjectState := writes.foldl write s

theorem write_of_slot {w : ValueWrite} (h : w.HasSlot) (s : ObjectState) :
    s.write w = s.updatePriority w.call.1 w.call.2 := if_pos h

theorem write_of_no_slot {w : ValueWrite} (h : ¬ w.HasSlot) (s : ObjectState) :
    s.write w = { s with presentValue := w.2.getD s.presentValue } := by
  have hpriority : ¬ (1 ≤ w.1 ∧ w.1 ≤ 16) := h
  unfold write writePresentValue
  rw [if_neg hpriority]
  cases w.2 <;> rfl

theorem hasSlot_iff {w : ValueWrite} : w.HasSlot ↔ 1 ≤ w.call.1 ∧ w.call.1 ≤ 16 := by
  simp [ValueWrite.HasSlot, ValueWrite.call, UInt8.le_iff_toNat_le]

theorem write_slots (s : ObjectState) (w : ValueWrite) :
    (s.write w).priorityArray = (s.updatePriority w.call.1 w.call.2).priorityArray := by
  by_cases h : w.HasSlot
  · rw [write_of_slot h]
  · have hnone : PriorityCall.slot w.call = none := by
      rw [hasSlot_iff] at h
      rw [PriorityCall.slot_eq_none]
      omega
    rw [write_of_no_slot h, updatePriority_of_slot_none hnone]

/-- What a call makes of the slots depends on nothing but the slots. -/
theorem updatePriority_slots_congr {s s' : ObjectState}
    (h : s.priorityArray = s'.priorityArray) (priority : Nat) (value : Option F32) :
    (s.updatePriority priority value).priorityArray =
      (s'.updatePriority priority value).priorityArray := by
  unfold updatePriority
  split <;> simp [h]

theorem writeAll_slots {s s' : ObjectState} (h : s.priorityArray = s'.priorityArray)
    (writes : List ValueWrite) : (s.writeAll writes).priorityArray =
      (s'.updateAll (writes.map ValueWrite.call)).priorityArray := by
  induction writes generalizing s s' with
  | nil => exact h
  | cons w writes ih =>
    have hone : (s.write w).priorityArray =
        (s'.updatePriority w.call.1 w.call.2).priorityArray :=
      (s.write_slots w).trans (updatePriority_slots_congr h ..)
    exact ih hone

/-- Each slot holds what was last written to it. -/
theorem writeAll_slot (s : ObjectState) (writes : List ValueWrite) (slot : Fin 16) :
    (s.writeAll writes).priorityArray.get slot =
      (lastValue (writes.map ValueWrite.call) (slot + 1)).getD (s.priorityArray.get slot) := by
  rw [writeAll_slots rfl, slot_updateAll]

theorem writeAll_append (s : ObjectState) (writes writes' : List ValueWrite) :
    s.writeAll (writes ++ writes') = (s.writeAll writes).writeAll writes' :=
  List.foldl_append ..

/-- The present value was resolved by the last write that did anything, or is what that
wrote. -/
theorem writeAll_presentValue (s : ObjectState) (writes : List ValueWrite) :
    (s.writeAll writes).presentValue =
      match (writes.filter ValueWrite.takesEffect).getLast? with
      | none => s.presentValue
      | some w =>
        if w.HasSlot then (s.writeAll writes).resolvePresentValue
        else w.2.getD s.presentValue := by
  induction writes using List.reverseRecOn with
  | nil => rfl
  | append_singleton writes w ih =>
    have hlast : s.writeAll (writes ++ [w]) = (s.writeAll writes).write w :=
      s.writeAll_append writes [w]
    rw [hlast, List.filter_append]
    by_cases hslot : w.HasSlot
    · have hcommanded := updatePriority_commanded (s.writeAll writes) w.call.2
        (hasSlot_iff.mp hslot)
      rw [← write_of_slot hslot] at hcommanded
      simpa [ValueWrite.takesEffect, hslot] using hcommanded.eq
    · cases hvalue : w.2 with
      | some v => simp [write_of_no_slot hslot, ValueWrite.takesEffect, hslot, hvalue]
      | none => simpa [write_of_no_slot hslot, ValueWrite.takesEffect, hslot, hvalue] using ih

end ObjectState

/-! ## Messages -/

section

variable {C : Codec} {config : LocalDeviceConfig} {transportMac : Octets} {msg : ReceivedApdu}
  {d d' : Device} {sent : List Sent}

theorem toOption_join_eq_some {ε α : Type} {x : Except ε (Option α)} {a : α} :
    x.toOption.join = some a ↔ x = .ok (some a) := by
  rcases x with e | _ | a' <;> simp [Except.toOption]

theorem toOption_eq_some {ε α : Type} {x : Except ε α} {a : α} :
    x.toOption = some a ↔ x = .ok a := by
  cases x <;> simp [Except.toOption]

theorem requestedWrite_iff {oid : ObjectIdentifier} {w : ValueWrite} :
    requestedWrite C config msg = some (oid, w) ↔
      14 ≤ msg.apdu.length ∧ pduTypeAndService msg.apdu = .ok (0x00, 0x0F) ∧
      parseOidFromRequest C msg.apdu = .ok (some oid) ∧
      (∃ deviceOid, C.oidNew .device config.deviceId = some deviceOid ∧ oid ≠ deviceOid) ∧
      ∃ propEnd, writePropId msg.apdu = .ok (some (85, propEnd)) ∧
        parseWritePropertyValue C msg.apdu propEnd = .ok (some (w.2, w.1)) := by
  obtain ⟨priority, value⟩ := w
  simp [requestedWrite, Option.bind_eq_some_iff, toOption_join_eq_some, toOption_eq_some, guard]
  grind

/-- What the message asks to be written to this object. -/
theorem writesTo_cons (oid : ObjectIdentifier) (msgs : List ReceivedApdu) :
    writesTo C config oid (msg :: msgs) = writesTo C config oid [msg] ++
      writesTo C config oid msgs := by
  simp only [writesTo, ← List.filterMap_append]
  cases requestedWrite C config msg <;> simp

theorem writesTo_singleton {oid : ObjectIdentifier} {w : ValueWrite}
    (h : requestedWrite C config msg = some (oid, w)) : writesTo C config oid [msg] = [w] := by
  simp [writesTo, h]

theorem writesTo_nothing {oid : ObjectIdentifier}
    (h : ∀ w, requestedWrite C config msg ≠ some (oid, w)) : writesTo C config oid [msg] = [] := by
  cases hw : requestedWrite C config msg with
  | none => simp [writesTo, hw]
  | some requested =>
    obtain ⟨oid', w⟩ := requested
    have hne : oid' ≠ oid := by
      rintro rfl
      exact h w hw
    simp [writesTo, hw, hne]

/-- The two agree in all but whether they are out of service. -/
def ObjectState.SameValues (s s' : ObjectState) : Prop :=
  ∃ outOfService, s' = { s with outOfService }

theorem ObjectState.SameValues.refl (s : ObjectState) : s.SameValues s := ⟨s.outOfService, rfl⟩

theorem ObjectState.SameValues.write {s s' : ObjectState} (h : s.SameValues s') (w : ValueWrite) :
    (s.write w).SameValues (s'.write w) := by
  obtain ⟨outOfService, rfl⟩ := h
  refine ⟨outOfService, ?_⟩
  by_cases hslot : w.HasSlot
  · rw [write_of_slot hslot, write_of_slot hslot]
    unfold updatePriority
    split <;> rfl
  · rw [write_of_no_slot hslot, write_of_no_slot hslot]

theorem ObjectState.SameValues.writeAll {s s' : ObjectState} (h : s.SameValues s')
    (writes : List ValueWrite) : (s.writeAll writes).SameValues (s'.writeAll writes) := by
  induction writes generalizing s s' with
  | nil => exact h
  | cons w writes ih => exact ih (h.write w)

/-- A write that is asked for is carried out. -/
theorem requested_is_written {oid : ObjectIdentifier} {w : ValueWrite}
    (hw : requestedWrite C config msg = some (oid, w)) {state : ObjectState}
    (hfound : d.objects oid = some state)
    (h : d.handle C config msg transportMac = .ok (d', sent)) :
    d'.objects = Function.update d.objects oid (some (state.write w)) := by
  obtain ⟨hlen, hservice, htarget, hdevice, propEnd, hproperty, hparsed⟩ :=
    requestedWrite_iff.mp hw
  obtain ⟨invokeId, -, hwrite⟩ :=
    (⟨hlen, htarget, hdevice, hproperty, hfound⟩ :
      Addressed C config msg d.objects oid state 85 propEnd).handle
  cases Device.handle_cases h with
  | short hshort => omega
  | unhandled hother hnot =>
    obtain rfl := Except.ok.inj (hservice.symm.trans hother)
    simp [services] at hnot
  | whoIs hother => cases hservice.symm.trans hother
  | readProperty _ hother => cases hservice.symm.trans hother
  | subscribeCov _ hother => cases hservice.symm.trans hother
  | writeProperty _ _ hwritten =>
    rw [hwrite, writeObject, if_pos rfl, hparsed] at hwritten
    cases hwritten
    rfl

/-- What is not asked for does not happen, but for a write to Out_Of_Service. -/
theorem unrequested_is_kept {oid : ObjectIdentifier}
    (hw : ∀ w, requestedWrite C config msg ≠ some (oid, w)) {state : ObjectState}
    (hfound : d.objects oid = some state)
    (h : d.handle C config msg transportMac = .ok (d', sent)) :
    ∃ state', d'.objects oid = some state' ∧ state.SameValues state' := by
  cases Device.handle_cases h with
  | short | unhandled | whoIs | readProperty | subscribeCov => exact ⟨state, hfound, .refl state⟩
  | writeProperty _ hservice hwrite =>
    cases write_cases hwrite with
    | ignored => exact ⟨state, hfound, .refl state⟩
    | refused => exact ⟨state, hfound, .refl state⟩
    | @presentValue other _ propEnd value priority _ haddressed hparsed =>
      have hne : oid ≠ other := by
        rintro rfl
        exact hw (priority, value) (requestedWrite_iff.mpr ⟨haddressed.length, hservice,
          haddressed.target, haddressed.device, propEnd, haddressed.property, hparsed⟩)
      exact ⟨state, by simpa [Function.update_of_ne hne] using hfound, .refl state⟩
    | @outOfService other found _ outOfService _ haddressed =>
      by_cases heq : oid = other
      · subst heq
        obtain rfl := Option.some.inj (hfound.symm.trans haddressed.found)
        exact ⟨_, Function.update_self .., outOfService, rfl⟩
      · exact ⟨state, by simpa [Function.update_of_ne heq] using hfound, .refl state⟩

/-- The step law: one message does to an object what its writes say. -/
theorem handle_writes {oid : ObjectIdentifier} {state : ObjectState}
    (hfound : d.objects oid = some state)
    (h : d.handle C config msg transportMac = .ok (d', sent)) :
    ∃ state', d'.objects oid = some state' ∧
      (state.writeAll (writesTo C config oid [msg])).SameValues state' := by
  by_cases hw : ∃ w, requestedWrite C config msg = some (oid, w)
  · obtain ⟨w, hw⟩ := hw
    rw [writesTo_singleton hw, requested_is_written hw hfound h]
    exact ⟨_, Function.update_self .., .refl _⟩
  · have hnot : ∀ w, requestedWrite C config msg ≠ some (oid, w) := fun w heq => hw ⟨w, heq⟩
    rw [writesTo_nothing hnot]
    exact unrequested_is_kept hnot hfound h

/-- Over a run each object is written what the messages ask for, in their order. -/
theorem run_writes {oid : ObjectIdentifier} {state : ObjectState}
    (hfound : d.objects oid = some state) {msgs : List ReceivedApdu}
    (h : Runs.after (Device.step C config transportMac) d msgs = some d') :
    ∃ state', d'.objects oid = some state' ∧
      (state.writeAll (writesTo C config oid msgs)).SameValues state' := by
  induction msgs generalizing d state with
  | nil =>
    obtain rfl := Option.some.inj h
    exact ⟨state, hfound, .refl state⟩
  | cons msg msgs ih =>
    obtain ⟨d₁, hstep, hrest⟩ := Option.bind_eq_some_iff.mp h
    obtain ⟨sent, hhandle⟩ := Device.step_some hstep
    obtain ⟨state₁, hfound₁, hone⟩ := handle_writes hfound hhandle
    obtain ⟨state', hfound', hall⟩ := ih hfound₁ hrest
    refine ⟨state', hfound', ?_⟩
    rw [writesTo_cons, ObjectState.writeAll_append]
    obtain ⟨outOfService₁, hsame₁⟩ := hone.writeAll (writesTo C config oid msgs)
    obtain ⟨outOfService, rfl⟩ := hall
    exact ⟨outOfService, by rw [hsame₁]⟩

/-- No object is made or lost. -/
theorem objects_isSome {oid : ObjectIdentifier}
    (h : d.handle C config msg transportMac = .ok (d', sent)) :
    (d'.objects oid).isSome ↔ (d.objects oid).isSome := by
  constructor
  · intro hsome
    by_contra hnone
    cases Device.handle_cases h with
    | short | unhandled | whoIs | readProperty | subscribeCov => exact hnone hsome
    | writeProperty _ _ hwrite =>
      cases write_cases hwrite with
      | ignored | refused => exact hnone hsome
      | @presentValue other _ _ _ _ _ haddressed | @outOfService other _ _ _ _ haddressed =>
        by_cases heq : oid = other
        · subst heq
          simp [haddressed.found] at hnone
        · simp only [Function.update_of_ne heq] at hsome
          exact hnone hsome
  · intro hsome
    obtain ⟨state, hfound⟩ := Option.isSome_iff_exists.mp hsome
    obtain ⟨state', hfound', -⟩ := handle_writes hfound h
    rw [hfound']
    rfl

theorem run_isSome {oid : ObjectIdentifier} {msgs : List ReceivedApdu}
    (h : Runs.after (Device.step C config transportMac) d msgs = some d') :
    (d'.objects oid).isSome ↔ (d.objects oid).isSome := by
  induction msgs generalizing d with
  | nil =>
    obtain rfl := Option.some.inj h
    exact Iff.rfl
  | cons msg msgs ih =>
    obtain ⟨d₁, hstep, hrest⟩ := Option.bind_eq_some_iff.mp h
    obtain ⟨sent, hhandle⟩ := Device.step_some hstep
    exact (ih hrest).trans (objects_isSome hhandle)

end

/-- Whatever the device is told, its objects are what the writes asked for so far have
made of them: each slot holds what was last written to it, and the present value is what
the slots give, unless the last write that did anything named no slot. -/
theorem objects_follow_their_writes {C : Codec} {config : LocalDeviceConfig}
    {transportMac : Octets} {d d' : Device} (hstart : Device.start C = .ok d)
    {msgs : List ReceivedApdu}
    (h : Runs.after (Device.step C config transportMac) d msgs = some d')
    {oid : ObjectIdentifier} {state : ObjectState} (hfound : d'.objects oid = some state) :
    (∀ slot : Fin 16, state.priorityArray.get slot = (ObjectState.lastValue
      ((writesTo C config oid msgs).map ValueWrite.call) (slot + 1)).getD none) ∧
    state.presentValue =
      match ((writesTo C config oid msgs).filter ValueWrite.takesEffect).getLast? with
      | none => .zero
      | some w => if w.HasSlot then state.resolvePresentValue else w.2.getD .zero := by
  have hsome : (d.objects oid).isSome := by
    rw [← run_isSome h, hfound]
    rfl
  obtain ⟨first, hfirst⟩ := Option.isSome_iff_exists.mp hsome
  have hmade : ∀ oid state, d.objects oid = some state →
      state.priorityArray = .replicate 16 none ∧ state.presentValue = .zero :=
    Device.start_forall hstart fun _ _ _ _ => ⟨rfl, rfl⟩
  obtain ⟨hslots, hzero⟩ := hmade oid first hfirst
  obtain ⟨state', hfound', outOfService, hsame⟩ := run_writes hfirst h
  obtain rfl := Option.some.inj (hfound.symm.trans hfound')
  constructor
  · intro slot
    have hslot := first.writeAll_slot (writesTo C config oid msgs) slot
    have hempty : first.priorityArray.get slot = none := by
      rw [hslots]
      simp [Vector.get]
    rw [hempty] at hslot
    rw [hsame]
    exact hslot
  · have hvalue := first.writeAll_presentValue (writesTo C config oid msgs)
    rw [hzero] at hvalue
    rw [hsame]
    exact hvalue

/-- 42.5 is written to AO-1 at priority 8, and then without a priority. -/
def valueTwice : List ReceivedApdu := [writeRequest [0x39, 0x08], writeRequest []]

theorem slot_keeps_what_was_written_to_it :
    ∃ d d' state, Device.start .standard = .ok d ∧
      Runs.after (Device.step .standard defaultDevice [0x01, 0x02]) d valueTwice = some d' ∧
      d'.objects ⟨.analogOutput, 1⟩ = some state ∧
      state.priorityArray.get 7 = some ⟨0x422A0000⟩ ∧ state.presentValue = ⟨0x422A0000⟩ := by
  obtain ⟨d, d', state, hstart, hrun, hfound⟩ : ∃ d d' state, Device.start .standard = .ok d ∧
      Runs.after (Device.step .standard defaultDevice [0x01, 0x02]) d valueTwice = some d' ∧
        d'.objects ⟨.analogOutput, 1⟩ = some state := ⟨_, _, _, rfl, rfl, rfl⟩
  obtain ⟨hslots, hvalue⟩ := objects_follow_their_writes hstart hrun hfound
  exact ⟨d, d', state, hstart, hrun, hfound, (hslots 7).trans rfl, hvalue.trans rfl⟩

end BacnetBridge
