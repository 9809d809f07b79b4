import Mathlib.Algebra.Group.Nat.Defs

/-! Tag headers of BACnet encodings (clause 20.2.1 of the standard): class,
number and length of the value that follows. Nothing here depends on what the
values are for. -/
namespace Tags

inductive TagClass
  | application
  | context
  deriving DecidableEq, Repr

structure Tag where
  number : Nat
  tagClass : TagClass
  length : Nat
  opening : Bool
  closing : Bool
  deriving DecidableEq, Repr

/-- A context-tagged primitive value of that number. -/
def Tag.isContext (t : Tag) (number : Nat) : Bool :=
  t.tagClass == .context && t.number == number && !t.opening && !t.closing

/-- A big-endian number of that many octets. -/
def unsigned (data : List UInt8) (offset : Nat) : Nat → Option Nat
  | 0 => some 0
  | n + 1 => do
    let high ← unsigned data offset n
    let low ← data[offset + n]?
    return high * 256 + low.toNat

theorem unsigned_lt {data : List UInt8} {offset n v : Nat} (h : unsigned data offset n = some v) :
    v < 256 ^ n := by
  induction n generalizing v with
  | zero =>
    obtain rfl := Option.some.inj h
    exact Nat.one_pos
  | succ n ih =>
    obtain ⟨high, hhigh, h⟩ := Option.bind_eq_some_iff.mp h
    obtain ⟨low, -, h⟩ := Option.bind_eq_some_iff.mp h
    obtain rfl := Option.some.inj h
    have hlow := low.toNat_lt
    have := ih hhigh
    rw [Nat.pow_succ]
    omega

theorem unsigned_append (front data : List UInt8) (offset n : Nat) :
    unsigned (front ++ data) (front.length + offset) n = unsigned data offset n := by
  induction n with
  | zero => rfl
  | succ n ih =>
    have hlow : (front ++ data)[front.length + offset + n]? = data[offset + n]? := by
      rw [Nat.add_assoc, List.getElem?_append_right (Nat.le_add_right ..),
        Nat.add_sub_cancel_left]
    simp only [unsigned, ih, hlow]

/-- The length that an extended length octet announces, and where it ends. -/
def extendedLength (data : List UInt8) (offset : Nat) : Option (Nat × Nat) := do
  let n ← data[offset]?
  if n = 254 then
    let length ← unsigned data (offset + 1) 2
    return (length, offset + 3)
  else if n = 255 then
    let length ← unsigned data (offset + 1) 4
    return (length, offset + 5)
  else return (n.toNat, offset + 1)

/-- The tag number, and where the header goes on. Numbers from 15 on have an octet
of their own, in which 255 is reserved. -/
def tagNumber (data : List UInt8) (offset : Nat) (first : UInt8) : Option (Nat × Nat) :=
  if first >>> 4 = 15 then do
    let n ← data[offset + 1]?
    if 15 ≤ n ∧ n < 255 then return (n.toNat, offset + 2) else none
  else some ((first >>> 4).toNat, offset + 1)

/-- The header at `offset`, and the offset after it. -/
def decode (data : List UInt8) (offset : Nat) : Option (Tag × Nat) := do
  let first ← data[offset]?
  let (number, offset) ← tagNumber data offset first
  let lvt := first &&& 7
  if first &&& 8 = 0 then
    if lvt < 5 then return (⟨number, .application, lvt.toNat, false, false⟩, offset)
    else if lvt = 5 then
      let (length, offset) ← extendedLength data offset
      return (⟨number, .application, length, false, false⟩, offset)
    else none
  else if lvt < 5 then return (⟨number, .context, lvt.toNat, false, false⟩, offset)
  else if lvt = 5 then
    let (length, offset) ← extendedLength data offset
    return (⟨number, .context, length, false, false⟩, offset)
  else if lvt = 6 then return (⟨number, .context, 0, true, false⟩, offset)
  else return (⟨number, .context, 0, false, true⟩, offset)

/-- An opening tag is no primitive value, whatever its number. -/
theorem Tag.isContext_opening {t : Tag} (h : t.opening = true) (number : Nat) :
    t.isContext number = false := by
  simp [isContext, h]

/-- A single octet that opens a constructed value. -/
theorem decode_opening {data : List UInt8} {offset : Nat} {first : UInt8}
    (h : data[offset]? = some first) (hnumber : first >>> 4 ≠ 15) (hclass : first &&& 8 ≠ 0)
    (hlvt : first &&& 7 = 6) :
    decode data offset = some (⟨(first >>> 4).toNat, .context, 0, true, false⟩, offset + 1) := by
  simp [decode, h, tagNumber, hnumber, hclass, hlvt]

theorem tagNumber_bounds {data : List UInt8} {offset : Nat} {first : UInt8} {found : Nat × Nat}
    (h : tagNumber data offset first = some found) : offset < found.2 ∧ found.2 ≤ offset + 2 := by
  unfold tagNumber at h
  split at h
  · obtain ⟨n, -, h⟩ := Option.bind_eq_some_iff.mp h
    split at h
    · obtain rfl := Option.some.inj h
      exact ⟨Nat.lt_add_of_pos_right (by decide), Nat.le_refl _⟩
    · cases h
  · obtain rfl := Option.some.inj h
    exact ⟨Nat.lt_add_one offset, Nat.le_succ _⟩

theorem extendedLength_bounds {data : List UInt8} {offset : Nat} {found : Nat × Nat}
    (h : extendedLength data offset = some found) : offset < found.2 ∧ found.2 ≤ offset + 5 := by
  obtain ⟨n, -, h⟩ := Option.bind_eq_some_iff.mp h
  split at h
  · obtain ⟨_, -, h⟩ := Option.bind_eq_some_iff.mp h
    obtain rfl := Option.some.inj h
    exact ⟨Nat.lt_add_of_pos_right (by decide), Nat.add_le_add_left (by decide) _⟩
  split at h
  · obtain ⟨_, -, h⟩ := Option.bind_eq_some_iff.mp h
    obtain rfl := Option.some.inj h
    exact ⟨Nat.lt_add_of_pos_right (by decide), Nat.le_refl _⟩
  · obtain rfl := Option.some.inj h
    exact ⟨Nat.lt_add_one offset, Nat.add_le_add_left (by decide) _⟩

/-- A header has at least one octet, and at most seven. -/
theorem decode_bounds {data : List UInt8} {offset : Nat} {found : Tag × Nat}
    (h : decode data offset = some found) : offset < found.2 ∧ found.2 ≤ offset + 7 := by
  obtain ⟨first, -, h⟩ := Option.bind_eq_some_iff.mp h
  obtain ⟨⟨number, next⟩, hnumber, h⟩ := Option.bind_eq_some_iff.mp h
  obtain ⟨hlow, hhigh⟩ : offset < next ∧ next ≤ offset + 2 := tagNumber_bounds hnumber
  have hextended : ∀ make : Nat → Tag, ((extendedLength data next).bind fun length =>
      some (make length.1, length.2)) = some found → offset < found.2 ∧ found.2 ≤ offset + 7 := by
    intro make h
    obtain ⟨length, hlength, h⟩ := Option.bind_eq_some_iff.mp h
    obtain ⟨hstart, hstop⟩ : next < length.2 ∧ length.2 ≤ next + 5 := extendedLength_bounds hlength
    obtain rfl := Option.some.inj h
    dsimp only
    omega
  have hplain : ∀ {tag : Tag}, some (tag, next) = some found →
      offset < found.2 ∧ found.2 ≤ offset + 7 := by
    intro tag h
    obtain rfl := Option.some.inj h
    dsimp only
    omega
  dsimp only at h
  split at h
  · split at h
    · exact hplain h
    split at h
    · exact hextended (fun length => ⟨number, .application, length, false, false⟩) h
    · cases h
  split at h
  · exact hplain h
  split at h
  · exact hextended (fun length => ⟨number, .context, length, false, false⟩) h
  split at h
  · exact hplain h
  · exact hplain h

/-! ## Data within data -/

/-- The one is found in the other, `shift` octets on. -/
def StandsAt (data whole : List UInt8) (shift : Nat) : Prop :=
  ∀ i b, data[i]? = some b → whole[shift + i]? = some b

theorem standsAt_drop (whole : List UInt8) (shift : Nat) :
    StandsAt (whole.drop shift) whole shift := by
  intro i b h
  rwa [List.getElem?_drop] at h

theorem standsAt_take_drop (whole : List UInt8) (shift n : Nat) :
    StandsAt ((whole.drop shift).take n) whole shift := by
  intro i b h
  rw [List.getElem?_take] at h
  split at h
  · exact standsAt_drop whole shift i b h
  · cases h

namespace StandsAt

variable {data whole : List UInt8} {shift offset : Nat}

theorem unsigned (h : StandsAt data whole shift) {n v : Nat}
    (hv : Tags.unsigned data offset n = some v) :
    Tags.unsigned whole (shift + offset) n = some v := by
  induction n generalizing v with
  | zero => exact hv
  | succ n ih =>
    obtain ⟨high, hhigh, hv⟩ := Option.bind_eq_some_iff.mp hv
    obtain ⟨low, hlow, hv⟩ := Option.bind_eq_some_iff.mp hv
    have hlow' : whole[shift + offset + n]? = some low := by
      rw [Nat.add_assoc]
      exact h _ _ hlow
    simp only [Tags.unsigned, ih hhigh, hlow', Option.bind_eq_bind, Option.bind_some]
    exact hv

theorem tagNumber (h : StandsAt data whole shift) {first : UInt8} {number next : Nat}
    (hn : Tags.tagNumber data offset first = some (number, next)) :
    Tags.tagNumber whole (shift + offset) first = some (number, shift + next) := by
  unfold Tags.tagNumber at hn ⊢
  split at hn
  · rename_i hextended
    obtain ⟨n, hsecond, hn⟩ := Option.bind_eq_some_iff.mp hn
    rw [if_pos hextended, Nat.add_assoc, h _ _ hsecond]
    split at hn
    · rename_i hrange
      cases hn
      simp only [Option.bind_eq_bind, Option.bind_some, if_pos hrange]
      rfl
    · cases hn
  · rename_i hplain
    cases hn
    rw [if_neg hplain]
    rfl

theorem extendedLength (h : StandsAt data whole shift) {length next : Nat}
    (hl : Tags.extendedLength data offset = some (length, next)) :
    Tags.extendedLength whole (shift + offset) = some (length, shift + next) := by
  obtain ⟨n, hn, hl⟩ := Option.bind_eq_some_iff.mp hl
  unfold Tags.extendedLength
  simp only [h _ _ hn, Option.bind_eq_bind, Option.bind_some]
  split at hl
  · rename_i hwide
    obtain ⟨v, hv, hl⟩ := Option.bind_eq_some_iff.mp hl
    cases hl
    rw [if_pos hwide, Nat.add_assoc, h.unsigned hv]
    rfl
  rename_i hwide
  split at hl
  · rename_i hwidest
    obtain ⟨v, hv, hl⟩ := Option.bind_eq_some_iff.mp hl
    cases hl
    rw [if_neg hwide, if_pos hwidest, Nat.add_assoc, h.unsigned hv]
    rfl
  · rename_i hwidest
    cases hl
    rw [if_neg hwide, if_neg hwidest]
    rfl

/-- A header that is read of the one is read of the other. -/
theorem decode (h : StandsAt data whole shift) {tag : Tag} {next : Nat}
    (hd : Tags.decode data offset = some (tag, next)) :
    Tags.decode whole (shift + offset) = some (tag, shift + next) := by
  obtain ⟨first, hfirst, hd⟩ := Option.bind_eq_some_iff.mp hd
  obtain ⟨⟨number, mid⟩, hnumber, hd⟩ := Option.bind_eq_some_iff.mp hd
  have hextended : ∀ make : Nat → Tag, ((Tags.extendedLength data mid).bind fun length =>
      some (make length.1, length.2)) = some (tag, next) →
      ((Tags.extendedLength whole (shift + mid)).bind fun length =>
        some (make length.1, length.2)) = some (tag, shift + next) := by
    intro make hd
    obtain ⟨⟨length, stop⟩, hlength, hd⟩ := Option.bind_eq_some_iff.mp hd
    cases hd
    rw [h.extendedLength hlength]
    rfl
  have hplain : ∀ {tag' : Tag}, some (tag', mid) = some (tag, next) →
      some (tag', shift + mid) = some (tag, shift + next) := by
    intro tag' hd
    cases hd
    rfl
  unfold Tags.decode
  simp only [h _ _ hfirst, h.tagNumber hnumber, Option.bind_eq_bind, Option.bind_some]
  dsimp only at hd
  split at hd
  · rename_i hclass
    rw [if_pos hclass]
    split at hd
    · rename_i hinline
      rw [if_pos hinline]
      exact hplain hd
    rename_i hinline
    split at hd
    · rename_i hlonger
      rw [if_neg hinline, if_pos hlonger]
      exact hextended (fun length => ⟨number, .application, length, false, false⟩) hd
    · cases hd
  rename_i hclass
  rw [if_neg hclass]
  split at hd
  · rename_i hinline
    rw [if_pos hinline]
    exact hplain hd
  rename_i hinline
  rw [if_neg hinline]
  split at hd
  · rename_i hlonger
    rw [if_pos hlonger]
    exact hextended (fun length => ⟨number, .context, length, false, false⟩) hd
  rename_i hlonger
  rw [if_neg hlonger]
  split at hd
  · rename_i hopening
    rw [if_pos hopening]
    exact hplain hd
  · rename_i hopening
    rw [if_neg hopening]
    exact hplain hd

end StandsAt

/-! ## Primitive values -/

/-- The value at the head of the data: its tag, its octets, and what follows. An
application Boolean, whose value stands in its tag, is no such value. -/
def primitive (data : List UInt8) : Option (Tag × List UInt8 × List UInt8) := do
  let (tag, start) ← decode data 0
  if !tag.opening && !tag.closing && start + tag.length ≤ data.length then
    return (tag, (data.drop start).take tag.length, data.drop (start + tag.length))
  else none

/-- A value under a tag of that class and number, and what follows. -/
def valueUnder (tagClass : TagClass) (number : Nat) (data : List UInt8) :
    Option (List UInt8 × List UInt8) := do
  let (tag, value, rest) ← primitive data
  if tag.tagClass = tagClass ∧ tag.number = number then return (value, rest) else none

/-- A value under an application tag of that number, and what follows. -/
def application (number : Nat) (data : List UInt8) : Option (List UInt8 × List UInt8) :=
  valueUnder .application number data

/-- A value under a context tag of that number, and what follows. -/
def context (number : Nat) (data : List UInt8) : Option (List UInt8 × List UInt8) :=
  valueUnder .context number data

theorem primitive_eq_some {data value rest : List UInt8} {tag : Tag}
    (h : primitive data = some (tag, value, rest)) :
    ∃ start, decode data 0 = some (tag, start) ∧ start + tag.length ≤ data.length ∧
      value = (data.drop start).take tag.length ∧ rest = data.drop (start + tag.length) := by
  obtain ⟨⟨tag', start⟩, hdecode, h⟩ := Option.bind_eq_some_iff.mp h
  dsimp only at h
  split at h
  · rename_i hroom
    simp only [Bool.and_eq_true, decide_eq_true_eq] at hroom
    cases h
    exact ⟨start, hdecode, hroom.2, rfl, rfl⟩
  · cases h

theorem primitive_plain {data value rest : List UInt8} {tag : Tag}
    (h : primitive data = some (tag, value, rest)) : tag.opening = false ∧ tag.closing = false := by
  obtain ⟨⟨tag', start⟩, -, h⟩ := Option.bind_eq_some_iff.mp h
  dsimp only at h
  split at h
  · rename_i hplain
    simp only [Bool.and_eq_true, Bool.not_eq_true'] at hplain
    cases h
    exact hplain.1
  · cases h

/-- A value takes up its octets and a header of at most seven. -/
theorem length_of_primitive {data value rest : List UInt8} {tag : Tag}
    (h : primitive data = some (tag, value, rest)) :
    value.length = tag.length ∧ value.length + rest.length < data.length ∧
      data.length ≤ value.length + rest.length + 7 := by
  obtain ⟨start, hdecode, hroom, rfl, rfl⟩ := primitive_eq_some h
  obtain ⟨hlow, hhigh⟩ : 0 < start ∧ start ≤ 0 + 7 := decode_bounds hdecode
  simp only [List.length_take, List.length_drop]
  omega

theorem valueUnder_eq_some {tagClass : TagClass} {number : Nat} {data value rest : List UInt8}
    (h : valueUnder tagClass number data = some (value, rest)) :
    ∃ tag, primitive data = some (tag, value, rest) ∧ tag.tagClass = tagClass ∧
      tag.number = number := by
  obtain ⟨⟨tag, value', rest'⟩, hprimitive, h⟩ := Option.bind_eq_some_iff.mp h
  dsimp only at h
  split at h
  · rename_i htag
    cases h
    exact ⟨tag, hprimitive, htag⟩
  · cases h

end Tags
