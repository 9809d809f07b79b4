import BacnetBridge.RetryCache
import BacnetBridge.WriteAck

/-! A message that is handled twice in a row. -/
namespace BacnetBridge

/-- What the network sees of a frame: its octets, and whether it is a broadcast. -/
def Sent.emitted : Sent → Octets × Bool
  | .reply _ buf | .cached buf => (buf, false)
  | .broadcast _ buf => (buf, true)

/-! ## Writes -/

namespace ObjectState

theorem updatePriority_idem (state : ObjectState) (priority : Nat) (value : Option F32) :
    (state.updatePriority priority value).updatePriority priority value =
      state.updatePriority priority value := by
  unfold updatePriority
  split
  · simp only [Vector.set_set]
    rfl
  · rfl

theorem writePresentValue_idem (state : ObjectState) (value : Option F32) (priority : UInt8) :
    (state.writePresentValue value priority).writePresentValue value priority =
      state.writePresentValue value priority := by
  unfold writePresentValue
  by_cases hpriority : 1 ≤ priority ∧ priority ≤ 16
  · simp only [if_pos hpriority]
    exact updatePriority_idem state priority.toNat value
  · simp only [if_neg hpriority]
    cases value <;> rfl

end ObjectState

section

variable {C : Codec} {config : LocalDeviceConfig} {msg : ReceivedApdu} {objects : Objects}

theorem writeOutOfService_idem {state state' : ObjectState} {apdu : Octets} {propEnd : Nat}
    (h : writeOutOfService C state apdu propEnd = .ok state') :
    writeOutOfService C state' apdu propEnd = .ok state' := by
  unfold writeOutOfService at h ⊢
  cases hdecode : C.decodeTag apdu propEnd with
  | none => rfl
  | some found =>
    simp only [hdecode] at h ⊢
    by_cases htag : found.1.isContext 2 ∧ found.1.length = 1
    · rw [if_pos htag] at h ⊢
      by_cases hroom : propEnd + 1 < apdu.length
      · rw [if_pos hroom, index_of_lt hroom] at h ⊢
        obtain rfl := Except.ok.inj h
        rfl
      · rw [if_neg hroom] at h ⊢
        rfl
    · rw [if_neg htag] at h ⊢
      rfl

/-- The addressed object is still there after it was written. -/
theorem Addressed.again {oid : ObjectIdentifier} {state : ObjectState} {propId : UInt16}
    {propEnd : Nat} (h : Addressed C config msg objects oid state propId propEnd)
    (state' : ObjectState) : Addressed C config msg
      (Function.update objects oid (some state')) oid state' propId propEnd where
  length := h.length
  target := h.target
  device := h.device
  property := h.property
  found := Function.update_self ..

theorem handleWriteProperty_twice {objects' : Objects} {sent : List Sent}
    (h : handleWriteProperty C config msg objects = .ok (objects', sent)) :
    handleWriteProperty C config msg objects' = .ok (objects', sent) := by
  cases write_cases h with
  | ignored => exact h
  | refused => exact h
  | @presentValue oid state propEnd value priority invokeId addressed parsed =>
    obtain ⟨id, hid, hhandle⟩ := addressed.handle_presentValue parsed
    obtain ⟨id', hid', hagain⟩ := (addressed.again _).handle_presentValue parsed
    obtain rfl := Option.some.inj (hid.symm.trans hid')
    rw [hagain, Function.update_idem, ObjectState.writePresentValue_idem, ← hhandle, h]
  | @outOfService oid state propEnd outOfService invokeId addressed =>
    obtain ⟨id, state', hid, hstate', hhandle⟩ := addressed.handle_outOfService
    obtain ⟨id', state'', hid', hstate'', hagain⟩ := (addressed.again state').handle_outOfService
    obtain rfl := Option.some.inj (hid.symm.trans hid')
    obtain rfl := Except.ok.inj ((writeOutOfService_idem hstate').symm.trans hstate'')
    obtain ⟨hobjects, -⟩ := Prod.mk.inj (Except.ok.inj (hhandle.symm.trans h))
    rw [← hobjects, hagain, Function.update_idem, ← hhandle, h, hobjects]

end

/-! ## Reads -/

section

variable {C : Codec} {config : LocalDeviceConfig} {msg : ReceivedApdu} {objects : Objects}

theorem handleReadProperty_hit {cache : Cache} {id : UInt8} {buf : Octets}
    (hlen : 11 ≤ msg.apdu.length) (hid : msg.apdu[2]? = some id) (hhit : cache id = some buf) :
    handleReadProperty C config msg cache objects = .ok (cache, [.cached buf]) := by
  unfold handleReadProperty
  rw [if_neg (by omega), index_eq_ok_iff.mpr hid]
  simp only [bind, Except.bind, hhit]
  rfl

/-- An answer that is filed is the one that comes out of the cache; one that is not
is given again. -/
theorem handleReadProperty_twice {cache cache' : Cache} {sent : List Sent}
    (h : handleReadProperty C config msg cache objects = .ok (cache', sent)) :
    ∃ sent', handleReadProperty C config msg cache' objects = .ok (cache', sent') ∧
      sent'.map Sent.emitted = sent.map Sent.emitted := by
  rcases handleReadProperty_cases h with
    ⟨-, rfl, -⟩ | ⟨id, hlen, hid, ⟨buf, -, rfl, -⟩ | ⟨hmiss, hread⟩⟩
  · exact ⟨sent, h, rfl⟩
  · exact ⟨sent, h, rfl⟩
  · rcases (files_readUncached C config msg objects id).answer hread with
      ⟨-, ⟨rfl, -⟩ | ⟨npdu, buf, rfl, rfl, -⟩⟩
    · exact ⟨sent, h, rfl⟩
    · exact ⟨[.cached buf], handleReadProperty_hit hlen hid (Function.update_self ..), rfl⟩

end

/-- In every state, a message that is handled without a panic is handled the same
way once more, and changes nothing the second time. -/
theorem retransmission_is_harmless {C : Codec} {config : LocalDeviceConfig} {msg : ReceivedApdu}
    {transportMac : Octets} {d d' : Device} {sent : List Sent}
    (h : d.handle C config msg transportMac = .ok (d', sent)) :
    ∃ sent', d'.handle C config msg transportMac = .ok (d', sent') ∧
      sent'.map Sent.emitted = sent.map Sent.emitted := by
  cases Device.handle_cases h with
  | short | unhandled | whoIs | subscribeCov => exact ⟨_, h, rfl⟩
  | readProperty length service read =>
    obtain ⟨sent', hagain, hsame⟩ := handleReadProperty_twice read
    refine ⟨sent', ?_, hsame⟩
    rw [Device.handle_of_service length service]
    simp only [Handler.ofService, Device.call, hagain]
    rfl
  | writeProperty length service write =>
    have hagain := handleWriteProperty_twice write
    refine ⟨sent, ?_, rfl⟩
    rw [Device.handle_of_service length service]
    simp only [Handler.ofService, Device.call, hagain]
    rfl

/-- The answer to a read comes out of the cache the second time. -/
theorem read_resent_is_harmless :
    ∃ d d' sent sent', Device.start .standard = .ok d ∧
      d.handle .standard defaultDevice (deviceRead [0x01] 1 11) [0x01, 0x02] = .ok (d', sent) ∧
      d'.handle .standard defaultDevice (deviceRead [0x01] 1 11) [0x01, 0x02] = .ok (d', sent') ∧
      sent'.map Sent.emitted = sent.map Sent.emitted ∧ sent ≠ [] := by
  obtain ⟨d, hd⟩ : ∃ d, Device.start .standard = .ok d := ⟨_, rfl⟩
  obtain ⟨d', npdu, buf, hhandle⟩ : ∃ d' npdu buf, d.handle .standard defaultDevice
      (deviceRead [0x01] 1 11) [0x01, 0x02] = .ok (d', [.reply npdu buf]) := by
    obtain rfl := Except.ok.inj hd
    exact ⟨_, _, _, rfl⟩
  obtain ⟨sent', hagain, hsame⟩ := retransmission_is_harmless hhandle
  exact ⟨d, d', _, sent', hd, hhandle, hagain, hsame, by simp⟩

end BacnetBridge
