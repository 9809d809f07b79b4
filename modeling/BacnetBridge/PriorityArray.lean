import BacnetBridge.ReadAck

/-! The octets of Priority_Array read back: sixteen entries of an index under
context tag 0 and a Null or a Real under context tag 1. -/
namespace BacnetBridge

/-- Reals are encoded as the standard says. -/
def Codec.EncodesReals (C : Codec) : Prop := C.encodeAppReal = Codec.standard.encodeAppReal

theorem Codec.standard_encodesReals : Codec.standard.EncodesReals := rfl

/-! ## The reader -/

/-- A Null or a Real, and nothing behind it. -/
def readSlotValue (content : Octets) : Option (Option F32) :=
  match Tags.application 0 content, Tags.application 4 content with
  | some ([], []), _ => some none
  | _, some ([b₀, b₁, b₂, b₃], []) => some (some (.fromBeBytes b₀ b₁ b₂ b₃))
  | _, _ => none

/-- One entry, and what follows. -/
def readSlot (data : Octets) : Option ((Nat × Option F32) × Octets) := do
  let (tag0, index, rest) ← Tags.primitive data
  let (tag1, content, rest) ← Tags.primitive rest
  if tag0.isContext 0 ∧ tag1.isContext 1 then
    let index ← Tags.unsigned index 0 index.length
    let value ← readSlotValue content
    return ((index, value), rest)
  else none

def readSlots : Nat → Octets → Option (List (Nat × Option F32) × Octets)
  | 0, data => some ([], data)
  | n + 1, data => do
    let (slot, rest) ← readSlot data
    let (slots, rest) ← readSlots n rest
    return (slot :: slots, rest)

/-- Slots with their numbers, counted from 1 when `first` is 0. -/
def numbered (slots : List (Option F32)) (first : Nat) : List (Nat × Option F32) :=
  (slots.zipIdx first).map fun entry => (entry.2 + 1, entry.1)

/-- All octets are read, as the sixteen slots in their order. -/
def PriorityArrayReadsBack (C : Codec) (state : ObjectState) : Prop :=
  readSlots 16 (encodePriorityArrayValueBytes C state) =
    some (numbered state.priorityArray.toList 0, [])

/-! ## Entries -/

/-- A value that is read is no longer than a header and four octets. -/
theorem length_of_readSlotValue {content : Octets} {value : Option F32}
    (h : readSlotValue content = some value) : content.length ≤ 11 := by
  have hlength : ∀ {number : Nat} {octets : Octets},
      Tags.application number content = some (octets, []) → content.length ≤ octets.length + 7 := by
    intro number octets h
    obtain ⟨tag, hprimitive, -⟩ := Tags.valueUnder_eq_some h
    exact (Tags.length_of_primitive hprimitive).2.2
  unfold readSlotValue at h
  split at h
  · rename_i hnull
    have := hlength hnull
    simp at this
    omega
  · rename_i hreal _
    have := hlength hreal
    simp at this
    omega
  · cases h

/-- A context-tagged value of one octet. -/
theorem primitive_octet (number : Nat) (h : number < 15) (octet : UInt8) (rest : Octets) :
    Tags.primitive (UInt8.ofNat (number * 16 + 8 + 1) :: octet :: rest) =
      some (Standard.tagOf number 8 1, [octet], rest) := by
  have hlength : [octet].length < 2 ^ 32 := by simp
  have hread := Standard.primitive_tagged h (.inr rfl) hlength rest
  rwa [Standard.tagged, if_pos (by simp), Standard.header_of_lt h] at hread

/-- An empty slot reads back. -/
theorem readSlot_none {index : Nat} (h : index < 256) (rest : Octets) :
    readSlot (0x09 :: UInt8.ofNat index :: 0x19 :: 0x00 :: rest) = some ((index, none), rest) := by
  have hfirst : Tags.primitive (0x09 :: UInt8.ofNat index :: 0x19 :: 0x00 :: rest) =
      some (Standard.tagOf 0 8 1, [UInt8.ofNat index], 0x19 :: 0x00 :: rest) :=
    primitive_octet 0 (by decide) _ _
  have hnull : Tags.primitive (0x19 :: 0x00 :: rest) =
      some (Standard.tagOf 1 8 1, [0x00], rest) := primitive_octet 1 (by decide) _ _
  have hindex : Tags.unsigned [UInt8.ofNat index] 0 1 = some index := by
    simp [Tags.unsigned]
    omega
  have hvalue : readSlotValue [0x00] = some none := rfl
  have htags : (Standard.tagOf 0 8 1).isContext 0 ∧ (Standard.tagOf 1 8 1).isContext 1 := by
    decide
  simp only [readSlot, hfirst, hnull, Option.bind_eq_bind, Option.bind_some, htags, and_self,
    if_true, List.length_singleton, hindex, hvalue]
  rfl

/-- A commanded slot does not: the octet behind `0x1D` is taken for the length of
what is then no Real. -/
theorem readSlot_some (index : UInt8) (rest : Octets) :
    readSlot (0x09 :: index :: 0x1D :: 0x44 :: rest) = none := by
  have hfirst : Tags.primitive (0x09 :: index :: 0x1D :: 0x44 :: rest) =
      some (Standard.tagOf 0 8 1, [index], 0x1D :: 0x44 :: rest) :=
    primitive_octet 0 (by decide) _ _
  have hlength : Tags.extendedLength (0x1D :: 0x44 :: rest) 1 = some (68, 2) :=
    Standard.extendedLength_octet _ (by decide : 68 < 254) rest
  have hheader : Tags.decode (0x1D :: 0x44 :: rest) 0 = some (Standard.tagOf 1 8 68, 2) :=
    Standard.decode_extended (by decide : 1 < 15) (.inr rfl) hlength
  rw [Option.eq_none_iff_forall_not_mem]
  intro found hread
  simp only [readSlot, hfirst, Option.bind_eq_bind, Option.bind_some] at hread
  obtain ⟨⟨tag1, content, rest'⟩, hprimitive, hread⟩ := Option.bind_eq_some_iff.mp hread
  obtain ⟨start, hdecode, -⟩ := Tags.primitive_eq_some hprimitive
  obtain ⟨rfl, -⟩ := Prod.mk.inj (Option.some.inj (hheader.symm.trans hdecode))
  obtain ⟨hcontent, -, -⟩ := Tags.length_of_primitive hprimitive
  dsimp only at hread
  split at hread
  · obtain ⟨_, -, hread⟩ := Option.bind_eq_some_iff.mp hread
    obtain ⟨_, hvalue, -⟩ := Option.bind_eq_some_iff.mp hread
    have hshort := length_of_readSlotValue hvalue
    rw [hcontent] at hshort
    exact absurd hshort (by decide)
  · cases hread

/-! ## The array -/

/-- One entry of `encode_priority_array_value_bytes`. -/
def slotOctets (C : Codec) (entry : Option F32 × Nat) : Octets :=
  [0x09, UInt8.ofNat (entry.2 + 1)] ++
    match entry.1 with
    | some value => [0x1D] ++ C.encodeAppReal value
    | none => [0x19, 0x00]

theorem slotOctets_some {C : Codec} (hC : C.EncodesReals) (value : F32) (i : Nat) :
    slotOctets C (some value, i) =
      0x09 :: UInt8.ofNat (i + 1) :: 0x1D :: 0x44 :: value.toBeBytes := by
  unfold slotOctets
  rw [hC]
  rfl

/-- Slots read back exactly if none of them is commanded: the first that is stops
the reader. -/
theorem readSlots_iff {C : Codec} (hC : C.EncodesReals) (slots : List (Option F32)) (first : Nat)
    (h : first + slots.length < 256) :
    readSlots slots.length ((slots.zipIdx first).flatMap (slotOctets C)) =
        some (numbered slots first, []) ↔ ∀ slot ∈ slots, slot = none := by
  induction slots generalizing first with
  | nil => simp [readSlots, numbered]
  | cons slot slots ih =>
    rw [List.length_cons] at h
    rw [List.zipIdx_cons, List.flatMap_cons, List.forall_mem_cons, ← ih (first + 1) (by omega)]
    cases slot with
    | some value =>
      rw [slotOctets_some hC]
      simp [readSlots, readSlot_some]
    | none =>
      have hslot := readSlot_none (by omega : first + 1 < 256)
        ((slots.zipIdx (first + 1)).flatMap (slotOctets C))
      have hnumbered : numbered (none :: slots) first =
          (first + 1, none) :: numbered slots (first + 1) := by
        simp [numbered, List.zipIdx_cons]
      have hread : readSlot (slotOctets C (none, first) ++
          (slots.zipIdx (first + 1)).flatMap (slotOctets C)) = _ := hslot
      simp only [List.length_cons, readSlots, hread, hnumbered, Option.bind_eq_bind,
        Option.bind_some, true_and]
      constructor
      · intro hrest
        obtain ⟨⟨slots', rest⟩, hslots, hsame⟩ := Option.bind_eq_some_iff.mp hrest
        cases hsame
        exact hslots
      · intro hslots
        rw [hslots]
        rfl

/-- Priority_Array reads back exactly if no slot is commanded. -/
theorem priority_array_reads_back_iff {C : Codec} (hC : C.EncodesReals) (state : ObjectState) :
    PriorityArrayReadsBack C state ↔ ∀ slot ∈ state.priorityArray.toList, slot = none := by
  have hlength : state.priorityArray.toList.length = 16 := Vector.length_toList
  have hread := readSlots_iff hC state.priorityArray.toList 0 (by omega)
  rw [hlength] at hread
  exact hread

theorem fresh_priority_array_reads_back :
    PriorityArrayReadsBack .standard (makeObject .analogOutput 1) := by
  refine (priority_array_reads_back_iff Codec.standard_encodesReals _).mpr ?_
  intro slot hslot
  simp only [makeObject, Vector.toList_replicate] at hslot
  exact List.eq_of_mem_replicate hslot

/-- Priority 8 commanded with 42.5: the reader stops at that slot. -/
theorem commanded_priority_array_is_unreadable :
    readSlots 16 (encodePriorityArrayValueBytes .standard
      ((makeObject .analogOutput 1).updatePriority 8 (some ⟨0x422A0000⟩))) = none ∧
    ¬ PriorityArrayReadsBack .standard
      ((makeObject .analogOutput 1).updatePriority 8 (some ⟨0x422A0000⟩)) := by
  have hstuck : readSlots 16 (encodePriorityArrayValueBytes .standard
      ((makeObject .analogOutput 1).updatePriority 8 (some ⟨0x422A0000⟩))) = none := rfl
  constructor
  · exact hstuck
  · intro hback
    cases hstuck.symm.trans hback

end BacnetBridge
