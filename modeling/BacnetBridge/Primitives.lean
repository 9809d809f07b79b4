import BacnetBridge.Codec

/-! Tagged values of the standard, read back from their octets. -/
namespace BacnetBridge.Standard

/-! ## Numbers -/

@[simp] theorem length_octets (n count : Nat) : (octets n count).length = count := by
  induction count generalizing n with
  | zero => rfl
  | succ count ih => simp [octets, ih]

@[simp] theorem length_oidOctets (oid : ObjectIdentifier) : (oidOctets oid).length = 4 :=
  length_octets ..

/-- As many octets as were written read back as the number, but for what did
not fit. -/
theorem unsigned_octets (n count : Nat) (rest : Octets) :
    Tags.unsigned (octets n count ++ rest) 0 count = some (n % 256 ^ count) := by
  induction count generalizing n rest with
  | zero => simp [Tags.unsigned, Nat.mod_one]
  | succ count ih =>
    have hhigh := ih (n / 256) (UInt8.ofNat n :: rest)
    have hlow : (octets (n / 256) count ++ UInt8.ofNat n :: rest)[0 + count]? =
        some (UInt8.ofNat n) := by
      rw [Nat.zero_add, List.getElem?_append_right (by simp)]
      simp
    have hsplit : n % 256 ^ (count + 1) = n / 256 % 256 ^ count * 256 + n % 256 := by
      rw [Nat.pow_succ', Nat.mod_mul]
      omega
    simp only [octets, List.append_assoc, List.singleton_append, Tags.unsigned, hhigh, hlow]
    simp [hsplit]

theorem minimalOctets_uint16 (propId : UInt16) :
    minimalOctets propId.toUInt64.toNat =
      if propId.toNat < 256 then octets propId.toNat 1 else octets propId.toNat 2 := by
  have hlt := propId.toNat_lt
  simp only [UInt16.toNat_toUInt64, minimalOctets, hlt, if_true, Nat.reducePow]

/-! ## Headers -/

theorem header_of_lt {number classBit lvt : Nat} (h : number < 15) :
    header number classBit lvt = [UInt8.ofNat (number * 16 + classBit + lvt)] := if_pos h

/-- The number, the class bit and the length of the initial octet. -/
theorem header_bits {number classBit lvt : Nat} (hnumber : number < 15)
    (hclass : classBit = 0 ∨ classBit = 8) (hlvt : lvt < 8) :
    UInt8.ofNat (number * 16 + classBit + lvt) >>> 4 = UInt8.ofNat number ∧
      UInt8.ofNat (number * 16 + classBit + lvt) &&& 8 = UInt8.ofNat classBit ∧
      UInt8.ofNat (number * 16 + classBit + lvt) &&& 7 = UInt8.ofNat lvt := by
  have happlication : ∀ number < 15, ∀ lvt < 8,
      UInt8.ofNat (number * 16 + 0 + lvt) >>> 4 = UInt8.ofNat number ∧
        UInt8.ofNat (number * 16 + 0 + lvt) &&& 8 = UInt8.ofNat 0 ∧
        UInt8.ofNat (number * 16 + 0 + lvt) &&& 7 = UInt8.ofNat lvt := by decide
  have hcontext : ∀ number < 15, ∀ lvt < 8,
      UInt8.ofNat (number * 16 + 8 + lvt) >>> 4 = UInt8.ofNat number ∧
        UInt8.ofNat (number * 16 + 8 + lvt) &&& 8 = UInt8.ofNat 8 ∧
        UInt8.ofNat (number * 16 + 8 + lvt) &&& 7 = UInt8.ofNat lvt := by decide
  rcases hclass with rfl | rfl
  · exact happlication number hnumber lvt hlvt
  · exact hcontext number hnumber lvt hlvt

/-! ## Lengths -/

theorem extendedLength_octet (header : UInt8) {n : Nat} (h : n < 254) (data : Octets) :
    Tags.extendedLength (header :: UInt8.ofNat n :: data) 1 = some (n, 2) := by
  have hread : (UInt8.ofNat n).toNat = n := by
    simp
    omega
  have hne : ∀ k : UInt8, 254 ≤ k.toNat → UInt8.ofNat n ≠ k := by
    intro k hk heq
    rw [heq] at hread
    omega
  simp [Tags.extendedLength, hne 254 (by decide), hne 255 (by decide), hread]

theorem unsigned_behind (header announced : UInt8) {n count : Nat} (h : n < 256 ^ count)
    (data : Octets) :
    Tags.unsigned (header :: announced :: (octets n count ++ data)) 2 count = some n := by
  have hread := unsigned_octets n count data
  rw [Nat.mod_eq_of_lt h] at hread
  exact (Tags.unsigned_append [header, announced] _ 0 count).trans hread

theorem extendedLength_wide (header : UInt8) {n : Nat} (h : n < 2 ^ 16) (data : Octets) :
    Tags.extendedLength (header :: 254 :: (octets n 2 ++ data)) 1 = some (n, 4) := by
  simp [Tags.extendedLength, unsigned_behind header 254 (by omega : n < 256 ^ 2)]

theorem extendedLength_widest (header : UInt8) {n : Nat} (h : n < 2 ^ 32) (data : Octets) :
    Tags.extendedLength (header :: 255 :: (octets n 4 ++ data)) 1 = some (n, 6) := by
  simp [Tags.extendedLength, unsigned_behind header 255 (by omega : n < 256 ^ 4)]

/-- The tag of a primitive value; `classBit` is 8 for context tags. -/
def tagOf (number classBit length : Nat) : Tags.Tag :=
  ⟨number, if classBit = 0 then .application else .context, length, false, false⟩

section

variable {number classBit : Nat}

theorem tagNumber_header {lvt : Nat} (hnumber : number < 15) (hclass : classBit = 0 ∨ classBit = 8)
    (hlvt : lvt < 8) (data : Octets) :
    Tags.tagNumber data 0 (UInt8.ofNat (number * 16 + classBit + lvt)) = some (number, 1) := by
  obtain ⟨hhigh, -, -⟩ := header_bits hnumber hclass hlvt
  have hplain : UInt8.ofNat number ≠ 15 := by
    intro h
    have := congrArg UInt8.toNat h
    simp at this
    omega
  unfold Tags.tagNumber
  rw [hhigh, if_neg hplain]
  simp
  omega

/-- A length of up to four octets stands in the initial octet. -/
theorem decode_inline (hnumber : number < 15) (hclass : classBit = 0 ∨ classBit = 8) {length : Nat}
    (hlength : length < 5) (data : Octets) :
    Tags.decode (UInt8.ofNat (number * 16 + classBit + length) :: data) 0 =
      some (tagOf number classBit length, 1) := by
  obtain ⟨-, hbit, hlvt⟩ := header_bits hnumber hclass (by omega : length < 8)
  have hsmall : UInt8.ofNat length < 5 := by
    rw [UInt8.lt_iff_toNat_lt]
    simp
    omega
  have hread : (UInt8.ofNat length).toNat = length := by
    simp
    omega
  simp only [Tags.decode, List.getElem?_cons_zero, Option.bind_eq_bind, Option.bind_some,
    tagNumber_header hnumber hclass (by omega : length < 8), hbit, hlvt, if_pos hsmall, hread]
  rcases hclass with rfl | rfl <;> rfl

/-- A longer one is announced by 5 and stands behind it. -/
theorem decode_extended (hnumber : number < 15) (hclass : classBit = 0 ∨ classBit = 8)
    {data : Octets} {length start : Nat}
    (h : Tags.extendedLength (UInt8.ofNat (number * 16 + classBit + 5) :: data) 1 =
      some (length, start)) :
    Tags.decode (UInt8.ofNat (number * 16 + classBit + 5) :: data) 0 =
      some (tagOf number classBit length, start) := by
  obtain ⟨-, hbit, hlvt⟩ := header_bits hnumber hclass (by decide : 5 < 8)
  simp only [Tags.decode, List.getElem?_cons_zero, Option.bind_eq_bind, Option.bind_some,
    tagNumber_header hnumber hclass (by decide : 5 < 8), hbit, hlvt, h]
  rcases hclass with rfl | rfl <;> rfl

/-- Behind its header a value is cut out as it is. -/
theorem primitive_of_decode (front : Octets) {value rest : Octets}
    (h : Tags.decode (front ++ (value ++ rest)) 0 =
      some (tagOf number classBit value.length, front.length)) :
    Tags.primitive (front ++ (value ++ rest)) =
      some (tagOf number classBit value.length, value, rest) := by
  have hroom : front.length + value.length ≤ (front ++ (value ++ rest)).length := by
    simp only [List.length_append]
    omega
  have hvalue : ((front ++ (value ++ rest)).drop front.length).take value.length = value := by
    simp
  have hrest : (front ++ (value ++ rest)).drop (front.length + value.length) = rest := by
    rw [← List.append_assoc, ← List.length_append, List.drop_left]
  simp [Tags.primitive, h, tagOf, hrest]

/-- What is tagged reads back as its tag and its octets. -/
theorem primitive_tagged (hnumber : number < 15) (hclass : classBit = 0 ∨ classBit = 8)
    {value : Octets} (hlength : value.length < 2 ^ 32) (rest : Octets) :
    Tags.primitive (tagged number classBit value ++ rest) =
      some (tagOf number classBit value.length, value, rest) := by
  unfold tagged
  simp only [header_of_lt hnumber]
  split
  · rename_i hinline
    exact primitive_of_decode [_] (decode_inline hnumber hclass hinline _)
  split
  · rename_i hoctet
    exact primitive_of_decode [_, _]
      (decode_extended hnumber hclass (extendedLength_octet _ hoctet _))
  split
  · rename_i hwide
    exact primitive_of_decode (_ :: _ :: octets value.length 2)
      (decode_extended hnumber hclass (extendedLength_wide _ hwide _))
  · exact primitive_of_decode (_ :: _ :: octets value.length 4)
      (decode_extended hnumber hclass (extendedLength_widest _ hlength _))

end

end BacnetBridge.Standard
