import BacnetBridge.LocalDevice
import BacnetBridge.Runs

/-! Which messages the device's task survives. -/
namespace BacnetBridge

/-- The computation ends without a panic. -/
def Safe {α : Type} (x : Except Panic α) : Prop := ∃ a, x = .ok a

theorem safe_ok {α : Type} (a : α) : Safe (.ok a) := ⟨a, rfl⟩

theorem safe_pure {α : Type} (a : α) : Safe (pure a : Except Panic α) := ⟨a, rfl⟩

theorem not_safe_error {α : Type} (e : Panic) : ¬ Safe (.error e : Except Panic α) := by
  rintro ⟨a, h⟩
  cases h

theorem Safe.bind {α β : Type} {x : Except Panic α} {f : α → Except Panic β} (hx : Safe x)
    (hf : ∀ a, x = .ok a → Safe (f a)) : Safe (x >>= f) := by
  obtain ⟨a, rfl⟩ := hx
  exact hf a rfl

theorem Safe.of_bind {α β : Type} {x : Except Panic α} {f : α → Except Panic β}
    (h : Safe (x >>= f)) : Safe x := by
  cases x with
  | ok a => exact safe_ok a
  | error e => exact absurd h (not_safe_error e)

theorem safe_ok_bind {α β : Type} {a : α} {f : α → Except Panic β} :
    Safe (.ok a >>= f) ↔ Safe (f a) := Iff.rfl

theorem safe_index {bytes : Octets} {i : Nat} (h : i < bytes.length) : Safe (index bytes i) :=
  ⟨_, index_of_lt h⟩

theorem not_safe_index {bytes : Octets} {i : Nat} (h : bytes.length ≤ i) :
    ¬ Safe (index bytes i) := by
  simpa [index, h] using not_safe_error (α := UInt8) .indexOutOfBounds

theorem safe_slice {bytes : Octets} {start stop : Nat} (h : start ≤ stop)
    (h' : stop ≤ bytes.length) : Safe (slice bytes start stop) := ⟨_, slice_of_le h h'⟩

/-! ## The parsers -/

theorem safe_parseOidFromRequest (C : Codec) (apdu : Octets) :
    Safe (parseOidFromRequest C apdu) := by
  unfold parseOidFromRequest
  split
  · exact safe_pure _
  · rename_i hlen
    apply (safe_index (by omega)).bind
    intro b _
    split
    · exact safe_pure _
    · exact (safe_slice (by omega) (by omega)).bind fun bytes _ => safe_pure _

theorem safe_writePropId {apdu : Octets} (h : 14 ≤ apdu.length) : Safe (writePropId apdu) := by
  unfold writePropId
  apply (safe_index (by omega)).bind
  intro ctx1 _
  dsimp only
  split
  · exact safe_pure _
  · split
    · exact (safe_index (by omega)).bind fun _ _ => safe_pure _
    · split
      · exact (safe_index (by omega)).bind fun _ _ =>
          (safe_index (by omega)).bind fun _ _ => safe_pure _
      · exact safe_pure _

theorem safe_parseTaggedValue (C : Codec) (apdu : Octets) (tag2 : Tags.Tag) (pos2 : Nat) :
    Safe (parseTaggedValue C apdu tag2 pos2) := by
  unfold parseTaggedValue
  split
  · exact safe_pure _
  split
  · exact safe_pure _
  split
  · exact safe_pure _
  · rename_i appTag appPos _
    split
    · exact safe_pure _
    split
    · split
      · exact safe_pure _
      · rename_i hends
        apply (safe_slice (by omega) (by omega)).bind
        intro bytes hbytes
        have hlen : bytes.length = 4 := by
          rw [slice_of_le (by omega) (by omega)] at hbytes
          obtain rfl := Except.ok.inj hbytes
          simp
          omega
        exact (safe_index (by omega)).bind fun _ _ => (safe_index (by omega)).bind fun _ _ =>
          (safe_index (by omega)).bind fun _ _ => (safe_index (by omega)).bind fun _ _ =>
          safe_pure _
    · exact safe_pure _

theorem safe_parsePriority (C : Codec) (apdu : Octets) (afterValue : Nat) :
    Safe (parsePriority C apdu afterValue) := by
  unfold parsePriority
  split
  · split
    · split
      · split
        · exact safe_index ‹_›
        · exact safe_pure _
      · exact safe_pure _
    · exact safe_pure _
  · exact safe_pure _

theorem safe_parseWritePropertyValue (C : Codec) (apdu : Octets) (offset : Nat) :
    Safe (parseWritePropertyValue C apdu offset) := by
  unfold parseWritePropertyValue
  split
  · exact safe_pure _
  · rename_i tag2 pos2 _
    split
    · exact safe_pure _
    · apply (safe_parseTaggedValue C apdu tag2 pos2).bind
      intro value _
      split
      · exact safe_pure _
      · exact (safe_parsePriority C apdu _).bind fun _ _ => safe_pure _

/-- The one octet that is read without a check. -/
theorem safe_readPropId_iff {apdu : Octets} (h : 11 ≤ apdu.length) :
    Safe (readPropId apdu) ↔ ¬ (apdu.length = 11 ∧ apdu[9] &&& 7 = 2) := by
  have hctx1 : index apdu 9 = .ok apdu[9] := index_of_lt (by omega)
  have hfirst : index apdu 10 = .ok apdu[10] := index_of_lt (by omega)
  have hread : readPropId apdu =
      if apdu[9] &&& 7 = 0 ∨ apdu[9] &&& 7 > 4 ∨ apdu.length ≤ 10 then .ok none
      else if apdu[9] &&& 7 = 1 then .ok (some apdu[10].toUInt16)
      else if apdu[9] &&& 7 = 2 then
        (index apdu 11).bind fun low => .ok (some (u16FromBeBytes apdu[10] low))
      else .ok none := by
    simp only [readPropId, hctx1, hfirst]
    rfl
  rw [hread]
  split
  · apply iff_of_true (safe_ok _)
    rintro ⟨-, h2⟩
    rename_i hno
    simp [h2] at hno
    omega
  split
  · rename_i h1
    exact iff_of_true (safe_ok _) (by simp [h1])
  split
  · rename_i h2
    rw [and_iff_left h2]
    constructor
    · intro hs hlen
      exact not_safe_index (by omega) (Safe.of_bind hs)
    · intro hlen
      exact (safe_index (by omega)).bind fun _ _ => safe_ok _
  · rename_i h2
    exact iff_of_true (safe_ok _) (by simp [h2])

/-! ## The values -/

theorem safe_deviceValueBytes (config : LocalDeviceConfig) {propId : UInt16}
    (h : propId ∈ knownProps) : Safe (deviceValueBytes config propId) := by
  simp only [knownProps, List.mem_cons, List.not_mem_nil, or_false] at h
  rcases h with rfl | rfl | rfl | rfl | rfl | rfl | rfl | rfl | rfl | rfl <;> exact ⟨_, rfl⟩

theorem safe_objectValueBytes (C : Codec) (state : ObjectState) {propId : UInt16}
    (h : propId ∈ aoAvLoProps) : Safe (objectValueBytes C state propId) := by
  simp only [aoAvLoProps, List.mem_cons, List.not_mem_nil, or_false] at h
  rcases h with rfl | rfl | rfl | rfl | rfl | rfl | rfl | rfl | rfl | rfl | rfl | rfl <;>
    exact ⟨_, rfl⟩

/-! ## The handlers -/

section

variable (C : Codec) (config : LocalDeviceConfig) (msg : ReceivedApdu)

theorem safe_handleReadPropertyAoAvLo (cache : Cache) (state : ObjectState) (propId : UInt16)
    (invokeId : UInt8) :
    Safe (handleReadPropertyAoAvLo C config msg cache state propId invokeId) := by
  unfold handleReadPropertyAoAvLo
  split
  · exact safe_pure _
  · rename_i hknown
    apply (safe_objectValueBytes C state (not_not.mp hknown)).bind
    intro bytes _
    dsimp only
    split <;> exact safe_pure _

theorem safe_readDevice (cache : Cache) (propId : UInt16) (invokeId : UInt8) :
    Safe (readDevice C config msg cache propId invokeId) := by
  unfold readDevice
  split
  · split <;> exact safe_pure _
  · rename_i hknown
    apply (safe_deviceValueBytes config (not_not.mp hknown)).bind
    intro bytes _
    dsimp only
    split <;> exact safe_pure _

theorem safe_readUncached_iff (cache : Cache) (objects : Objects) (invokeId : UInt8) :
    Safe (readUncached C config msg cache objects invokeId) ↔ Safe (readPropId msg.apdu) := by
  constructor
  · exact Safe.of_bind
  · intro h
    apply h.bind
    intro found _
    cases found with
    | none => exact safe_pure _
    | some propId =>
      apply (safe_parseOidFromRequest C msg.apdu).bind
      intro requestOid _
      split
      · exact safe_pure _
      split
      · exact safe_readDevice ..
      split
      · exact safe_readDevice ..
      split
      · exact safe_handleReadPropertyAoAvLo ..
      · exact safe_pure _

theorem safe_handleSubscribeCov (transportMac : Octets) :
    Safe (handleSubscribeCov C msg transportMac) := by
  unfold handleSubscribeCov
  split
  · exact safe_pure _
  · apply (safe_index (by omega)).bind
    intro invokeId _
    dsimp only
    split <;> exact safe_pure _

theorem safe_writeOutOfService (state : ObjectState) (apdu : Octets) (propEnd : Nat) :
    Safe (writeOutOfService C state apdu propEnd) := by
  unfold writeOutOfService
  split
  · exact safe_pure _
  split
  · split
    · exact (safe_index ‹_›).bind fun _ _ => safe_pure _
    · exact safe_pure _
  · exact safe_pure _

theorem safe_writeObject (objects : Objects) (invokeId : UInt8) (oid : ObjectIdentifier)
    (state : ObjectState) (propId : UInt16) (propEnd : Nat) :
    Safe (writeObject C config msg objects invokeId oid state propId propEnd) := by
  unfold writeObject
  split
  · apply (safe_parseWritePropertyValue C msg.apdu propEnd).bind
    intro parsed _
    split <;> exact safe_pure _
  split
  · exact (safe_writeOutOfService ..).bind fun _ _ => safe_pure _
  · exact safe_pure _

theorem safe_handleWriteProperty (objects : Objects) :
    Safe (handleWriteProperty C config msg objects) := by
  unfold handleWriteProperty
  split
  · exact safe_pure _
  · rename_i hlen
    apply (safe_index (by omega)).bind
    intro invokeId _
    apply (safe_parseOidFromRequest C msg.apdu).bind
    intro requestOid _
    split
    · exact safe_pure _
    split
    · exact safe_pure _
    split
    · exact safe_pure _
    · apply (safe_writePropId (by omega)).bind
      intro found _
      split
      · exact safe_pure _
      split
      · exact safe_pure _
      · exact safe_writeObject ..

theorem safe_handleReadProperty_iff (cache : Cache) (objects : Objects) :
    Safe (handleReadProperty C config msg cache objects) ↔
      ¬ (msg.apdu.length = 11 ∧ (∀ id, msg.apdu[2]? = some id → cache id = none) ∧
        ∀ ctx1, msg.apdu[9]? = some ctx1 → ctx1 &&& 7 = 2) := by
  unfold handleReadProperty
  split
  · exact iff_of_true (safe_pure _) fun h => by omega
  · rename_i hlen
    have hlen : 11 ≤ msg.apdu.length := by omega
    rw [index_of_lt (by omega), safe_ok_bind]
    simp only [List.getElem?_eq_getElem (show 2 < msg.apdu.length by omega),
      List.getElem?_eq_getElem (show 9 < msg.apdu.length by omega), Option.some.injEq,
      forall_eq']
    cases hc : cache msg.apdu[2] with
    | some buf => simpa using safe_pure _
    | none => simpa [safe_readUncached_iff] using safe_readPropId_iff hlen

theorem safe_pduTypeAndService {apdu : Octets} (h : 2 ≤ apdu.length) :
    Safe (pduTypeAndService apdu) := by
  unfold pduTypeAndService
  apply (safe_index (by omega)).bind
  intro first _
  dsimp only
  split
  · split
    · exact (safe_index (by omega)).bind fun _ _ => safe_pure _
    · exact (safe_index (by omega)).bind fun _ _ => safe_pure _
  · exact (safe_index (by omega)).bind fun _ _ => safe_pure _

end

/-- A ReadProperty of eleven octets that announces a property identifier of two
octets, and whose invoke id has no answer in the cache. -/
structure ReadsPastEnd (d : Device) (msg : ReceivedApdu) : Prop where
  service : pduTypeAndService msg.apdu = .ok (0x00, 0x0C)
  length : msg.apdu.length = 11
  uncached : ∀ id, msg.apdu[2]? = some id → d.apduCache id = none
  propLen : ∀ ctx1, msg.apdu[9]? = some ctx1 → ctx1 &&& 7 = 2

theorem safe_handle_iff (C : Codec) (config : LocalDeviceConfig) (transportMac : Octets)
    (d : Device) (msg : ReceivedApdu) :
    Safe (d.handle C config msg transportMac) ↔ ¬ ReadsPastEnd d msg := by
  unfold Device.handle
  split
  · apply iff_of_true (safe_pure _)
    intro h
    have := h.length
    omega
  · rename_i hlen
    obtain ⟨service, hservice⟩ := safe_pduTypeAndService (show 2 ≤ msg.apdu.length by omega)
    rw [hservice, safe_ok_bind]
    have hother : ∀ {x : Except Panic (Device × List Sent)}, Safe x → service ≠ (0x00, 0x0C) →
        (Safe x ↔ ¬ ReadsPastEnd d msg) := fun hx hne =>
      iff_of_true hx fun h => hne (Except.ok.inj (hservice.symm.trans h.service))
    split
    · exact hother (safe_pure _) (by decide)
    · have hread := safe_handleReadProperty_iff C config msg d.apduCache d.objects
      constructor
      · intro hs h
        exact hread.mp (Safe.of_bind hs) ⟨h.length, h.uncached, h.propLen⟩
      · intro h
        refine (hread.mpr fun hc => h ⟨hservice, hc.1, hc.2.1, hc.2.2⟩).bind fun _ _ => safe_pure _
    · exact hother ((safe_handleSubscribeCov C msg transportMac).bind fun _ _ => safe_pure _)
        (by decide)
    · exact hother ((safe_handleWriteProperty C config msg d.objects).bind fun _ _ => safe_pure _)
        (by decide)
    · rename_i hne _ _ _
      exact hother (safe_pure _) fun h => by simp_all

theorem step_isSome_iff (C : Codec) (config : LocalDeviceConfig) (transportMac : Octets)
    (d : Device) (msg : ReceivedApdu) :
    (d.step C config transportMac msg).isSome ↔ ¬ ReadsPastEnd d msg := by
  rw [← safe_handle_iff C config transportMac]
  unfold Device.step Safe
  cases d.handle C config msg transportMac <;> simp [Except.toOption]

/-- The task survives a sequence of messages exactly if no message of it makes
it read past the end. -/
theorem task_survives_iff (C : Codec) (config : LocalDeviceConfig) (transportMac : Octets)
    (d : Device) (msgs : List ReceivedApdu) :
    (Runs.after (Device.step C config transportMac) d msgs).isSome ↔
      Runs.Each (Device.step C config transportMac) d msgs fun d msg => ¬ ReadsPastEnd d msg := by
  rw [Runs.after_isSome_iff]
  exact forall₄_congr fun _ _ _ _ => forall_congr' fun _ => step_isSome_iff ..

/-- A ReadProperty that ends within its property identifier. -/
def truncatedRead : ReceivedApdu where
  apdu := [0x00, 0x05, 0x01, 0x0C, 0x0C, 0x02, 0x00, 0x00, 0x01, 0x1A, 0x00]
  sourceMac := [0x01]
  sourceNetwork := none

theorem truncated_read_kills_the_task :
    ∃ d, Device.start .standard = .ok d ∧
      d.handle .standard defaultDevice truncatedRead [0x01, 0x02] = .error .indexOutOfBounds ∧
      Runs.after (Device.step .standard defaultDevice [0x01, 0x02]) d [truncatedRead] = none :=
  ⟨_, rfl, rfl, rfl⟩

end BacnetBridge
