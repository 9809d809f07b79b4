import BacnetBridge.WriteProperty

/-! What a WriteProperty leaves alone, whatever octets it consists of. -/
namespace BacnetBridge

namespace ObjectState

/-- What no write changes. -/
def identity (s : ObjectState) : ObjectType × UInt32 × F32 :=
  (s.objectType, s.inst, s.relinquishDefault)

/-- At most one slot and the present value with it, or else Out_Of_Service alone,
differ. -/
def OnePlace (s s' : ObjectState) : Prop :=
  s'.identity = s.identity ∧
    (s'.outOfService = s.outOfService ∧
        (∃ slot : Fin 16, ∀ other, other ≠ slot →
          s'.priorityArray.get other = s.priorityArray.get other) ∨
      s'.presentValue = s.presentValue ∧ s'.priorityArray = s.priorityArray)

theorem OnePlace.refl (s : ObjectState) : s.OnePlace s := ⟨rfl, .inr ⟨rfl, rfl⟩⟩

theorem updatePriority_onePlace (s : ObjectState) (priority : Nat) (value : Option F32) :
    s.OnePlace (s.updatePriority priority value) := by
  unfold updatePriority
  split
  · rename_i hpriority
    refine ⟨rfl, .inl ⟨rfl, ⟨priority - 1, by omega⟩, ?_⟩⟩
    intro other hne
    have hval : priority - 1 ≠ other.val := fun h => hne (Fin.ext h.symm)
    exact Vector.getElem_set_ne (by omega) other.isLt hval
  · exact .refl s

theorem writePresentValue_onePlace (s : ObjectState) (value : Option F32) (priority : UInt8) :
    s.OnePlace (s.writePresentValue value priority) := by
  unfold writePresentValue
  split
  · exact s.updatePriority_onePlace priority.toNat value
  · cases value with
    | none => exact .refl s
    | some v => exact ⟨rfl, .inl ⟨rfl, 0, fun _ _ => rfl⟩⟩

theorem outOfService_onePlace (s : ObjectState) (outOfService : Bool) :
    s.OnePlace { s with outOfService } := ⟨rfl, .inr ⟨rfl, rfl⟩⟩

end ObjectState

/-- The same objects, by their identities. -/
def SameObjects (objects objects' : Objects) : Prop :=
  ∀ oid, (objects' oid).map ObjectState.identity = (objects oid).map ObjectState.identity

theorem SameObjects.update {objects : Objects} {oid : ObjectIdentifier}
    {state state' : ObjectState} (hfound : objects oid = some state) (h : state.OnePlace state') :
    SameObjects objects (Function.update objects oid (some state')) := by
  intro other
  by_cases hother : other = oid
  · subst hother
    rw [Function.update_self, hfound, Option.map_some, Option.map_some, h.1]
  · rw [Function.update_of_ne hother]

/-- A reply with this APDU is all that is sent. -/
def Replies (sent : List Sent) (payload : Octets) : Prop :=
  ∃ npdu buf, sent = [.reply npdu buf] ∧ npdu.payload = payload

/-- A write stores the object that it addresses, changed in one place, and
acknowledges that; or it stores nothing. -/
inductive Framed (C : Codec) (msg : ReceivedApdu) (objects : Objects) : Objects → List Sent → Prop
  | untouched {sent : List Sent} : Framed C msg objects objects sent
  | acknowledged {sent : List Sent} {oid : ObjectIdentifier} {state state' : ObjectState}
      {invokeId : UInt8} (target : parseOidFromRequest C msg.apdu = .ok (some oid))
      (found : objects oid = some state) (place : state.OnePlace state')
      (ack : Replies sent [0x20, invokeId, 0x0F]) :
      Framed C msg objects (Function.update objects oid (some state')) sent

section

variable {C : Codec} {config : LocalDeviceConfig} {msg : ReceivedApdu}
  {objects objects' : Objects} {sent : List Sent}

theorem replies_simpleAck (hnpdu : ∀ npdu, (C.encodeNpdu npdu).isSome)
    (config : LocalDeviceConfig) (msg : ReceivedApdu) (invokeId service : UInt8) :
    Replies (sendSimpleAck C config msg invokeId service) [0x20, invokeId, service] := by
  have hsome := hnpdu (replyNpdu config msg [0x20, invokeId, service])
  obtain ⟨buf, hbuf⟩ := Option.isSome_iff_exists.mp hsome
  refine ⟨replyNpdu config msg [0x20, invokeId, service], buf, ?_, rfl⟩
  simp only [sendSimpleAck, sendUnicast, hbuf]

theorem write_framed (hnpdu : ∀ npdu, (C.encodeNpdu npdu).isSome)
    (h : handleWriteProperty C config msg objects = .ok (objects', sent)) :
    Framed C msg objects objects' sent := by
  cases write_cases h with
  | ignored => exact .untouched
  | refused => exact .untouched
  | @presentValue oid state _ value priority invokeId addressed =>
    exact .acknowledged addressed.target addressed.found
      (state.writePresentValue_onePlace value priority)
      (replies_simpleAck hnpdu config msg invokeId 0x0F)
  | @outOfService oid state _ outOfService invokeId addressed =>
    exact .acknowledged addressed.target addressed.found
      (state.outOfService_onePlace outOfService)
      (replies_simpleAck hnpdu config msg invokeId 0x0F)

theorem Framed.same (h : Framed C msg objects objects' sent) : SameObjects objects objects' := by
  cases h with
  | untouched => exact fun _ => rfl
  | acknowledged _ found place => exact .update found place

theorem Framed.others (h : Framed C msg objects objects' sent) {oid : ObjectIdentifier}
    (hother : parseOidFromRequest C msg.apdu ≠ .ok (some oid)) : objects' oid = objects oid := by
  cases h with
  | untouched => rfl
  | acknowledged target =>
    apply Function.update_of_ne
    rintro rfl
    exact hother target

theorem Framed.rejected (h : Framed C msg objects objects' sent)
    (hsent : ∀ invokeId, ¬ Replies sent [0x20, invokeId, 0x0F]) : objects' = objects := by
  cases h with
  | untouched => rfl
  | acknowledged _ _ _ ack => exact absurd ack (hsent _)

theorem Framed.onePlace (h : Framed C msg objects objects' sent) {oid : ObjectIdentifier}
    {state state' : ObjectState} (hfound : objects oid = some state)
    (hfound' : objects' oid = some state') : state.OnePlace state' := by
  cases h with
  | untouched =>
    obtain rfl := Option.some.inj (hfound.symm.trans hfound')
    exact .refl state
  | @acknowledged _ target before after _ _ found place =>
    by_cases htarget : oid = target
    · subst htarget
      rw [Function.update_self] at hfound'
      obtain rfl := Option.some.inj hfound'
      obtain rfl := Option.some.inj (found.symm.trans hfound)
      exact place
    · rw [Function.update_of_ne htarget] at hfound'
      obtain rfl := Option.some.inj (hfound.symm.trans hfound')
      exact .refl state

end

/-- Whatever the octets of a write: the objects keep their identities, only the
addressed one can change, and unless a SimpleAck is sent nothing does, neither in
silence nor with an Error PDU, whose first octet is `0x50`; what a SimpleAck
acknowledges is a change in one place. -/
theorem write_touches_one_place {C : Codec} (hnpdu : ∀ npdu, (C.encodeNpdu npdu).isSome)
    {config : LocalDeviceConfig} {msg : ReceivedApdu} {objects objects' : Objects}
    {sent : List Sent} (h : handleWriteProperty C config msg objects = .ok (objects', sent)) :
    SameObjects objects objects' ∧
    (∀ oid, parseOidFromRequest C msg.apdu ≠ .ok (some oid) → objects' oid = objects oid) ∧
    (sent = [] → objects' = objects) ∧
    (∀ payload, Replies sent payload → payload.head? = some 0x50 → objects' = objects) ∧
    ((∀ invokeId, ¬ Replies sent [0x20, invokeId, 0x0F]) → objects' = objects) ∧
    ∀ oid state state', objects oid = some state → objects' oid = some state' →
      state.OnePlace state' := by
  have hframed := write_framed hnpdu h
  refine ⟨hframed.same, fun _ => hframed.others, ?_, ?_, hframed.rejected,
    fun _ _ _ => hframed.onePlace⟩
  · rintro rfl
    apply hframed.rejected
    rintro invokeId ⟨_, _, hsent, -⟩
    cases hsent
  · rintro _ ⟨npdu, buf, rfl, rfl⟩ herror
    apply hframed.rejected
    rintro invokeId ⟨npdu', _, hsent, hack⟩
    obtain ⟨rfl, -⟩ : npdu = npdu' ∧ _ := by simpa using hsent
    simp [hack] at herror

/-- 42.5 at priority 8 leaves the other two objects as they were. -/
theorem write_at_priority_touches_one_place :
    ∃ d objects' sent, Device.start .standard = .ok d ∧
      handleWriteProperty .standard defaultDevice (writeRequest [0x39, 0x08]) d.objects =
        .ok (objects', sent) ∧
      objects' ⟨.analogValue, 1⟩ = d.objects ⟨.analogValue, 1⟩ ∧
      objects' ⟨.lightingOutput, 1⟩ = d.objects ⟨.lightingOutput, 1⟩ := by
  obtain ⟨d, hd⟩ : ∃ d, Device.start .standard = .ok d := ⟨_, rfl⟩
  obtain ⟨objects', sent, hwrite⟩ : ∃ objects' sent, handleWriteProperty .standard defaultDevice
      (writeRequest [0x39, 0x08]) d.objects = .ok (objects', sent) := by
    obtain rfl := Except.ok.inj hd
    exact ⟨_, _, rfl⟩
  have hothers := (write_touches_one_place (fun _ => rfl) hwrite).2.1
  exact ⟨d, objects', sent, hd, hwrite, hothers _ (by decide), hothers _ (by decide)⟩

end BacnetBridge
