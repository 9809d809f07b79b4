import BacnetBridge.ReadAck

/-! The character strings that the Device serves: Object_Name and the transport
mode, as a client reads them. -/
namespace BacnetBridge

/-- A character set and the octets of the text in it. -/
structure CharacterString where
  charset : UInt8
  text : Octets
  deriving DecidableEq, Repr

/-- Character set 0 is UTF-8. -/
def CharacterString.utf8 (s : String) : CharacterString := ⟨0, s.toUTF8.toList⟩

/-- A value under application tag 7 and nothing behind it; its first octet names
the character set. -/
def readCharacterString (data : Octets) : Option CharacterString := do
  let (content, rest) ← Tags.application 7 data
  match content with
  | [] => none
  | charset :: text => if rest = [] then return ⟨charset, text⟩ else none

/-- Header, character set and text make up the value. -/
theorem length_of_readCharacterString {data : Octets} {s : CharacterString}
    (h : readCharacterString data = some s) :
    ∃ tag start, Tags.decode data 0 = some (tag, start) ∧
      start + 1 + s.text.length = data.length := by
  obtain ⟨⟨content, rest⟩, happlication, h⟩ := Option.bind_eq_some_iff.mp h
  obtain ⟨tag, hprimitive, -⟩ := Tags.valueUnder_eq_some happlication
  obtain ⟨start, hdecode, hroom, -, hrest⟩ := Tags.primitive_eq_some hprimitive
  obtain ⟨hcontent, -, -⟩ := Tags.length_of_primitive hprimitive
  refine ⟨tag, start, hdecode, ?_⟩
  cases content with
  | nil => cases h
  | cons charset text =>
    dsimp only at h
    split at h
    · rename_i hnil
      obtain rfl := Option.some.inj h
      have hend := congrArg List.length (hnil.symm.trans hrest)
      simp only [List.length_nil, List.length_drop] at hend
      simp only [List.length_cons] at hcontent
      dsimp only
      omega
    · cases h

theorem length_toList (bytes : ByteArray) : bytes.toList.length = bytes.size := by
  have hloop : ∀ i r, (ByteArray.toList.loop bytes i r).length = r.length + (bytes.size - i) := by
    intro i r
    induction i, r using ByteArray.toList.loop.induct bytes with
    | case1 i r hlt ih =>
      rw [ByteArray.toList.loop, if_pos hlt, ih, List.length_cons]
      omega
    | case2 i r hge =>
      rw [ByteArray.toList.loop, if_neg hge, List.length_reverse]
      omega
  exact (hloop 0 []).trans (by simp)

/-- The encoder of the standard writes what is read back, at any length. -/
theorem readCharacterString_standard {s : String} (h : s.toUTF8.size + 1 < 2 ^ 32) :
    readCharacterString (Codec.standard.encodeAppCharacterString s) = some (.utf8 s) := by
  have hlength : (0 :: s.toUTF8.toList : Octets).length < 2 ^ 32 := by
    rw [List.length_cons, length_toList]
    exact h
  have hread := Standard.primitive_tagged (by decide : 7 < 15) (.inl rfl) hlength []
  rw [List.append_nil] at hread
  simp only [readCharacterString, Tags.application, Tags.valueUnder, Codec.standard, hread]
  rfl

/-! ## What the Device writes -/

/-- `0x75` announces a length octet, so the header has two octets. -/
theorem two_le_of_decode {data : Octets} {tag : Tags.Tag} {start : Nat}
    (h : Tags.decode (0x75 :: data) 0 = some (tag, start)) : 2 ≤ start := by
  obtain ⟨⟨length, stop⟩, hlength, h⟩ : ∃ found,
      Tags.extendedLength (0x75 :: data) 1 = some found ∧
        some (Standard.tagOf 7 0 found.1, found.2) = some (tag, start) :=
    Option.bind_eq_some_iff.mp h
  obtain ⟨-, rfl⟩ := Prod.mk.inj (Option.some.inj h)
  exact (Tags.extendedLength_bounds hlength).1

/-- The octet for the character set is missing, so what is read is never the
string, whatever its length. -/
theorem shortString_misread (s : String) :
    readCharacterString (shortString s) ≠ some (.utf8 s) := by
  intro h
  obtain ⟨tag, start, hdecode, hlength⟩ := length_of_readCharacterString h
  have hstart : 2 ≤ start := two_le_of_decode hdecode
  simp only [CharacterString.utf8, shortString, List.length_append, List.length_cons,
    List.length_nil] at hlength
  omega

/-- Neither Object_Name nor the transport mode ever reads as what was configured. -/
theorem device_strings_never_read_back (config : LocalDeviceConfig) :
    ∃ name mode, deviceValueBytes config 75 = .ok name ∧ deviceValueBytes config 512 = .ok mode ∧
      readCharacterString name ≠ some (.utf8
        (if config.deviceName.isEmpty then "BACnet-Bridge" else config.deviceName)) ∧
      readCharacterString mode ≠ some (.utf8 config.transportMode) :=
  ⟨_, _, rfl, rfl, shortString_misread _, shortString_misread _⟩

/-- The default name is misread, where the encoder used for the other objects
would write it as it is. -/
theorem default_name_is_misread :
    ∃ name, deviceValueBytes defaultDevice 75 = .ok name ∧
      readCharacterString name ≠ some (.utf8 "BACnet-Bridge") ∧
      readCharacterString (Codec.standard.encodeAppCharacterString "BACnet-Bridge") =
        some (.utf8 "BACnet-Bridge") :=
  ⟨_, rfl, shortString_misread _, readCharacterString_standard (by decide)⟩

end BacnetBridge
