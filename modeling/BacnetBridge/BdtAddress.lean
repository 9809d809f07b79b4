import BacnetBridge.Decimal
import BacnetBridge.Fdt
import BacnetBridge.Overrides

/-! `parse_ipv4` in `bbmd_transport.rs`, beside the parser of the standard library that
the interface of the same configuration goes through. -/
namespace BacnetBridge

abbrev Ipv4 := Vector UInt8 4

/-! ## The two parsers -/

/-- `part.parse::<u8>()`. -/
def parseOctet (part : String) : Except BridgeError UInt8 :=
  match parseUnsigned 8 part with
  | some n => .ok (UInt8.ofNat n)
  | none => .error (.transport ("Invalid IP octet: " ++ part))

def parseIpv4 (s : String) : Except BridgeError Ipv4 :=
  match (s.toList.splitOn '.').map String.ofList with
  | [p₀, p₁, p₂, p₃] => do
    return #v[← parseOctet p₀, ← parseOctet p₁, ← parseOctet p₂, ← parseOctet p₃]
  | _ => .error (.transport ("Invalid IP address format: " ++ s))

/-- `read_number(10, Some(3), false)` of the standard parser: at most three digits, no
zero in front of others, and what follows them. -/
def readOctet (text : List Char) : Option (UInt8 × List Char) :=
  let digits := text.takeWhile Char.isDigit
  let n := Nat.ofDigitChars 10 digits 0
  if 3 < digits.length ∨ digits = [] ∨ digits.head? = some '0' ∧ 1 < digits.length then none
  else if n < 256 then some (UInt8.ofNat n, text.dropWhile Char.isDigit)
  else none

/-- An octet that follows a dot. -/
def readNextOctet : List Char → Option (UInt8 × List Char)
  | '.' :: text => readOctet text
  | _ => none

/-- `Ipv4Addr::from_str`. -/
def Ipv4.fromStr (s : String) : Option Ipv4 := do
  let (a, text) ← readOctet s.toList
  let (b, text) ← readNextOctet text
  let (c, text) ← readNextOctet text
  let (d, text) ← readNextOctet text
  if text = [] then return #v[a, b, c, d] else none

/-! ## Octets -/

/-- An octet as it is written. -/
def octetText (b : UInt8) : List Char := Nat.toDigits 10 b.toNat

theorem octetText_numeral (b : UInt8) : Decimal.Numeral (octetText b) := Decimal.numeral_toDigits _

theorem octetText_length (b : UInt8) : (octetText b).length ≤ 3 := by
  rw [octetText, Nat.length_toDigits_le_iff (by decide) (by decide)]
  have := b.toNat_lt
  omega

theorem dot_not_mem_octetText (b : UInt8) : '.' ∉ octetText b := by
  intro h
  cases (octetText_numeral b).digit '.' h

/-- A numeral of a value below 256 is an octet as it is written. -/
theorem octetText_of_numeral {digits : List Char} (h : Decimal.Numeral digits)
    (hlt : Nat.ofDigitChars 10 digits 0 < 256) :
    octetText (UInt8.ofNat (Nat.ofDigitChars 10 digits 0)) = digits := by
  have hn : (UInt8.ofNat (Nat.ofDigitChars 10 digits 0)).toNat = Nat.ofDigitChars 10 digits 0 :=
    UInt8.toNat_ofNat_of_lt' hlt
  rw [octetText, hn, Decimal.toDigits_ofDigitChars h]

theorem ofDigitChars_octetText (b : UInt8) : Nat.ofDigitChars 10 (octetText b) 0 = b.toNat :=
  Nat.ofDigitChars_ten_toDigits

theorem Ipv4.octets (ip : Ipv4) : ∃ a b c d, ip = #v[a, b, c, d] := by
  refine ⟨ip[0], ip[1], ip[2], ip[3], ?_⟩
  ext i hi : 1
  obtain rfl | rfl | rfl | rfl : i = 0 ∨ i = 1 ∨ i = 2 ∨ i = 3 := by omega
  all_goals rfl

theorem toList_ipText (a b c d : UInt8) : (ipText #v[a, b, c, d]).toList = octetText a ++ '.' ::
    (octetText b ++ '.' :: (octetText c ++ '.' :: octetText d)) := by
  have htext : ∀ b : UInt8, (toString b).toList = octetText b := fun b => Nat.toList_repr
  simp [ipText, htext, String.toList_append]

/-! ## The standard parser -/

theorem takeWhile_octetText (b : UInt8) {rest : List Char}
    (hrest : ∀ c ∈ rest.head?, ¬ c.isDigit) :
    (octetText b ++ rest).takeWhile Char.isDigit = octetText b ∧
      (octetText b ++ rest).dropWhile Char.isDigit = rest := by
  have hdigits : ∀ c ∈ octetText b, c.isDigit := (octetText_numeral b).digit
  rw [List.takeWhile_append_of_pos hdigits, List.dropWhile_append_of_pos hdigits]
  cases rest with
  | nil => simp
  | cons c rest => simp_all

theorem readOctet_iff {text rest : List Char} {b : UInt8} :
    readOctet text = some (b, rest) ↔
      text = octetText b ++ rest ∧ ∀ c ∈ rest.head?, ¬ c.isDigit := by
  constructor
  · intro h
    simp only [readOctet] at h
    split at h
    · cases h
    rename_i hshape
    split at h
    · rename_i hlt
      obtain ⟨rfl, rfl⟩ := Prod.mk.inj (Option.some.inj h)
      have hnumeral : Decimal.Numeral (text.takeWhile Char.isDigit) := by
        refine ⟨by tauto, List.all_eq_true.mp List.all_takeWhile, ?_⟩
        intro hzero
        have hlength : 0 < (text.takeWhile Char.isDigit).length :=
          List.length_pos_iff.mpr (by tauto)
        by_contra hlong
        exact hshape (.inr (.inr ⟨hzero, by omega⟩))
      rw [octetText_of_numeral hnumeral hlt, List.takeWhile_append_dropWhile]
      refine ⟨rfl, ?_⟩
      intro c hc
      have hstop := List.head?_dropWhile_not Char.isDigit text
      rw [hc] at hstop
      simpa using hstop
    · cases h
  · rintro ⟨rfl, hrest⟩
    obtain ⟨htake, hdrop⟩ := takeWhile_octetText b hrest
    have hnumeral := octetText_numeral b
    have hlength := octetText_length b
    have hlt := b.toNat_lt
    simp only [readOctet, htake, hdrop, ofDigitChars_octetText]
    rw [if_neg, if_pos (by omega), UInt8.ofNat_toNat]
    rintro (hlong | hempty | ⟨hzero, hpadded⟩)
    · omega
    · exact hnumeral.nonempty hempty
    · have hone := hnumeral.leading hzero
      omega

theorem readNextOctet_iff {text rest : List Char} {b : UInt8} :
    readNextOctet text = some (b, rest) ↔
      text = '.' :: (octetText b ++ rest) ∧ ∀ c ∈ rest.head?, ¬ c.isDigit := by
  unfold readNextOctet
  split
  · rw [readOctet_iff]
    simp
  · rename_i hdot
    simp only [reduceCtorEq, false_iff, not_and]
    rintro rfl
    exact absurd rfl (hdot _)

/-- The standard parser accepts the texts that addresses are written as. -/
theorem fromStr_iff {s : String} {ip : Ipv4} : Ipv4.fromStr s = some ip ↔ s = ipText ip := by
  rw [← String.toList_inj]
  constructor
  · intro h
    obtain ⟨⟨a, text₁⟩, ha, h⟩ := Option.bind_eq_some_iff.mp h
    obtain ⟨⟨b, text₂⟩, hb, h⟩ := Option.bind_eq_some_iff.mp h
    obtain ⟨⟨c, text₃⟩, hc, h⟩ := Option.bind_eq_some_iff.mp h
    obtain ⟨⟨d, text₄⟩, hd, h⟩ := Option.bind_eq_some_iff.mp h
    dsimp only at ha hb hc hd h
    split at h
    · rename_i hend
      obtain rfl := Option.some.inj h
      obtain ⟨htext, -⟩ := readOctet_iff.mp ha
      obtain ⟨rfl, -⟩ := readNextOctet_iff.mp hb
      obtain ⟨rfl, -⟩ := readNextOctet_iff.mp hc
      obtain ⟨rfl, -⟩ := readNextOctet_iff.mp hd
      rw [toList_ipText, htext, hend, List.append_nil]
    · cases h
  · intro h
    obtain ⟨a, b, c, d, rfl⟩ := ip.octets
    have hdot : ∀ text : List Char, ∀ c ∈ ('.' :: text).head?, ¬ c.isDigit := by
      rintro text c hc
      obtain rfl : '.' = c := by simpa using hc
      decide
    have hlast : readNextOctet ('.' :: octetText d) = some (d, []) :=
      readNextOctet_iff.mpr ⟨by simp, by simp⟩
    simp only [Ipv4.fromStr, h, toList_ipText, readOctet_iff.mpr ⟨rfl, hdot _⟩,
      readNextOctet_iff.mpr ⟨rfl, hdot _⟩, hlast, Option.bind_eq_bind, Option.bind_some, if_true]
    rfl

/-! ## The bridge's parser -/

theorem head?_ne_plus {digits : List Char} (h : ∀ c ∈ digits, c.isDigit) :
    digits.head? ≠ some '+' := by
  intro hplus
  cases h '+' (List.mem_of_head? hplus)

/-- A number is read from the digits, with or without a plus sign before them. -/
theorem parseUnsigned_ofList {bits : Nat} {part digits : List Char}
    (h : part = digits ∧ digits.head? ≠ some '+' ∨ part = '+' :: digits) :
    parseUnsigned bits (String.ofList part) =
      if digits ≠ [] ∧ digits.all Char.isDigit then
        if Nat.ofDigitChars 10 digits 0 < 2 ^ bits then some (Nat.ofDigitChars 10 digits 0)
        else none
      else none := by
  have hvalue : digits.foldl (fun n d => n * 10 + (d.toNat - '0'.toNat)) 0 =
      Nat.ofDigitChars 10 digits 0 := by
    simp only [Nat.ofDigitChars, Nat.mul_comm]
  rw [parseUnsigned, String.toList_ofList]
  obtain ⟨rfl, hplus⟩ | rfl := h
  · split
    · exact absurd rfl hplus
    · simp only [hvalue]
  · simp only [hvalue]

/-- What `parse` of an unsigned integer accepts, and what it makes of it. -/
theorem parseUnsigned_eq_some {bits : Nat} {part : List Char} {n : Nat} :
    parseUnsigned bits (String.ofList part) = some n ↔
      ∃ digits, (part = digits ∨ part = '+' :: digits) ∧ digits ≠ [] ∧
        (∀ c ∈ digits, c.isDigit) ∧ n < 2 ^ bits ∧ Nat.ofDigitChars 10 digits 0 = n := by
  constructor
  · intro h
    obtain ⟨digits, hsign⟩ : ∃ digits,
        part = digits ∧ digits.head? ≠ some '+' ∨ part = '+' :: digits := by
      cases part with
      | nil => exact ⟨[], .inl ⟨rfl, nofun⟩⟩
      | cons c part =>
        by_cases hc : c = '+'
        · exact ⟨part, .inr (by rw [hc])⟩
        · exact ⟨c :: part, .inl ⟨rfl, by simpa using hc⟩⟩
    rw [parseUnsigned_ofList hsign] at h
    split at h
    · rename_i hdigits
      split at h
      · rename_i hlt
        obtain rfl := Option.some.inj h
        exact ⟨digits, hsign.imp_left And.left, hdigits.1, List.all_eq_true.mp hdigits.2, hlt, rfl⟩
      · cases h
    · cases h
  · rintro ⟨digits, hpart, hnonempty, hdigit, hlt, rfl⟩
    rw [parseUnsigned_ofList (hpart.imp_left (⟨·, head?_ne_plus hdigit⟩)),
      if_pos ⟨hnonempty, List.all_eq_true.mpr hdigit⟩, if_pos hlt]

/-- A plus sign, or a zero in front of other digits. -/
def Padded (part : List Char) : Prop :=
  part.head? = some '+' ∨ part.head? = some '0' ∧ 1 < part.length

instance (part : List Char) : Decidable (Padded part) := inferInstanceAs (Decidable (_ ∨ _))

theorem not_padded_of_numeral {part : List Char} (h : Decimal.Numeral part) : ¬ Padded part := by
  rintro (hplus | ⟨hzero, hlong⟩)
  · exact head?_ne_plus h.digit hplus
  · have hone := h.leading hzero
    omega

/-- What is parsed without one is a numeral. -/
theorem numeral_of_parse {bits : Nat} {part : List Char} {n : Nat}
    (h : parseUnsigned bits (String.ofList part) = some n) (hpadded : ¬ Padded part) :
    Decimal.Numeral part ∧ Nat.ofDigitChars 10 part 0 = n ∧ n < 2 ^ bits := by
  obtain ⟨digits, rfl | rfl, hnonempty, hdigit, hlt, hn⟩ := parseUnsigned_eq_some.mp h
  · refine ⟨⟨hnonempty, hdigit, ?_⟩, hn, hlt⟩
    intro hzero
    have hlength := List.length_pos_iff.mpr hnonempty
    by_contra hlong
    exact hpadded (.inr ⟨hzero, by omega⟩)
  · exact absurd (.inl rfl) hpadded

theorem parseOctet_eq_ok {part : String} {b : UInt8} :
    parseOctet part = .ok b ↔ ∃ n, parseUnsigned 8 part = some n ∧ UInt8.ofNat n = b := by
  unfold parseOctet
  split
  · rename_i n hn
    simp [hn]
  · rename_i hn
    simp [hn]

theorem parseOctet_octetText (b : UInt8) : parseOctet (String.ofList (octetText b)) = .ok b := by
  have hnumeral := octetText_numeral b
  have hparse := parseUnsigned_eq_some.mpr ⟨octetText b, .inl rfl, hnumeral.nonempty,
    hnumeral.digit, b.toNat_lt, ofDigitChars_octetText b⟩
  exact parseOctet_eq_ok.mpr ⟨b.toNat, hparse, UInt8.ofNat_toNat⟩

theorem octetText_of_parse {part : List Char} {b : UInt8}
    (h : parseOctet (String.ofList part) = .ok b) (hpadded : ¬ Padded part) :
    part = octetText b := by
  obtain ⟨n, hn, rfl⟩ := parseOctet_eq_ok.mp h
  obtain ⟨hnumeral, rfl, hlt⟩ := numeral_of_parse hn hpadded
  exact (octetText_of_numeral hnumeral hlt).symm

/-- What `parse_ipv4` accepts: four parts, each an octet. -/
theorem parseIpv4_iff {s : String} {ip : Ipv4} : parseIpv4 s = .ok ip ↔
    ∃ p₀ p₁ p₂ p₃ a b c d, s.toList.splitOn '.' = [p₀, p₁, p₂, p₃] ∧
      parseOctet (String.ofList p₀) = .ok a ∧ parseOctet (String.ofList p₁) = .ok b ∧
      parseOctet (String.ofList p₂) = .ok c ∧ parseOctet (String.ofList p₃) = .ok d ∧
      #v[a, b, c, d] = ip := by
  constructor
  · intro h
    unfold parseIpv4 at h
    split at h
    · rename_i q₀ q₁ q₂ q₃ hsplit
      obtain ⟨p₀, p₁, p₂, p₃, hparts, rfl, rfl, rfl, rfl⟩ : ∃ p₀ p₁ p₂ p₃,
          s.toList.splitOn '.' = [p₀, p₁, p₂, p₃] ∧ String.ofList p₀ = q₀ ∧
            String.ofList p₁ = q₁ ∧ String.ofList p₂ = q₂ ∧ String.ofList p₃ = q₃ := by
        simpa [List.map_eq_cons_iff] using hsplit
      simp only [bind_eq_ok, pure, Except.pure, Except.ok.injEq] at h
      obtain ⟨a, ha, b, hb, c, hc, d, hd, rfl⟩ := h
      exact ⟨p₀, p₁, p₂, p₃, a, b, c, d, hparts, ha, hb, hc, hd, rfl⟩
    · cases h
  · rintro ⟨p₀, p₁, p₂, p₃, a, b, c, d, hparts, ha, hb, hc, hd, rfl⟩
    simp only [parseIpv4, hparts, List.map_cons, List.map_nil, bind_eq_ok]
    exact ⟨a, ha, b, hb, c, hc, d, hd, rfl⟩

theorem splitOn_ipText (a b c d : UInt8) : (ipText #v[a, b, c, d]).toList.splitOn '.' =
    [octetText a, octetText b, octetText c, octetText d] := by
  simp only [toList_ipText, List.splitOn_append_cons_self_of_not_mem (dot_not_mem_octetText _),
    List.splitOn_eq_singleton (dot_not_mem_octetText _)]

theorem parseIpv4_ipText (ip : Ipv4) : parseIpv4 (ipText ip) = .ok ip := by
  obtain ⟨a, b, c, d, rfl⟩ := ip.octets
  exact parseIpv4_iff.mpr ⟨_, _, _, _, a, b, c, d, splitOn_ipText a b c d, parseOctet_octetText a,
    parseOctet_octetText b, parseOctet_octetText c, parseOctet_octetText d, rfl⟩

/-! ## How strict it is -/

/-- A number of at most 255 in decimal digits, with or without a plus sign. -/
def OctetLike (part : List Char) : Prop :=
  ∃ digits, (part = digits ∨ part = '+' :: digits) ∧ digits ≠ [] ∧
    (∀ c ∈ digits, c.isDigit) ∧ Nat.ofDigitChars 10 digits 0 < 256

/-- The text splits at its dots into four numbers of at most 255, and one of them is
written with a plus sign or a zero in front of other digits. -/
def Loose (s : String) : Prop :=
  ∃ p₀ p₁ p₂ p₃, s.toList.splitOn '.' = [p₀, p₁, p₂, p₃] ∧
    (∀ part ∈ [p₀, p₁, p₂, p₃], OctetLike part) ∧ ∃ part ∈ [p₀, p₁, p₂, p₃], Padded part

theorem octetLike_iff {part : List Char} :
    OctetLike part ↔ ∃ b, parseOctet (String.ofList part) = .ok b := by
  constructor
  · rintro ⟨digits, hpart, hnonempty, hdigit, hlt⟩
    have hparse : parseUnsigned 8 (String.ofList part) = some (Nat.ofDigitChars 10 digits 0) :=
      parseUnsigned_eq_some.mpr ⟨digits, hpart, hnonempty, hdigit, hlt, rfl⟩
    exact ⟨_, parseOctet_eq_ok.mpr ⟨_, hparse, rfl⟩⟩
  · rintro ⟨b, hb⟩
    obtain ⟨n, hn, -⟩ := parseOctet_eq_ok.mp hb
    obtain ⟨digits, hpart, hnonempty, hdigit, hlt, rfl⟩ := parseUnsigned_eq_some.mp hn
    exact ⟨digits, hpart, hnonempty, hdigit, hlt⟩

/-- A text that is not loose is parsed as it would be written. -/
theorem eq_ipText_of_parse {s : String} {ip : Ipv4} (h : parseIpv4 s = .ok ip)
    (hloose : ¬ Loose s) : s = ipText ip := by
  obtain ⟨p₀, p₁, p₂, p₃, a, b, c, d, hsplit, ha, hb, hc, hd, rfl⟩ := parseIpv4_iff.mp h
  have hparts : ∀ part ∈ [p₀, p₁, p₂, p₃], ¬ Padded part := by
    intro part hpart hpadded
    refine hloose ⟨p₀, p₁, p₂, p₃, hsplit, ?_, part, hpart, hpadded⟩
    simp only [List.forall_mem_cons, octetLike_iff]
    exact ⟨⟨a, ha⟩, ⟨b, hb⟩, ⟨c, hc⟩, ⟨d, hd⟩, by simp⟩
  have hsame : s.toList.splitOn '.' = (ipText #v[a, b, c, d]).toList.splitOn '.' := by
    rw [hsplit, splitOn_ipText, octetText_of_parse ha (hparts _ (by simp)),
      octetText_of_parse hb (hparts _ (by simp)), octetText_of_parse hc (hparts _ (by simp)),
      octetText_of_parse hd (hparts _ (by simp))]
  have hjoined : ['.'].intercalate (s.toList.splitOn '.') = s.toList := List.intercalate_splitOn '.'
  rw [← String.toList_inj, ← hjoined, hsame, List.intercalate_splitOn]

theorem not_loose_ipText (ip : Ipv4) : ¬ Loose (ipText ip) := by
  obtain ⟨a, b, c, d, rfl⟩ := ip.octets
  rintro ⟨p₀, p₁, p₂, p₃, hsplit, -, part, hpart, hpadded⟩
  rw [← hsplit, splitOn_ipText] at hpart
  have hnumeral : Decimal.Numeral part := by
    simp only [List.mem_cons, List.not_mem_nil, or_false] at hpart
    obtain rfl | rfl | rfl | rfl := hpart <;> exact octetText_numeral _
  exact not_padded_of_numeral hnumeral hpadded

theorem parse_of_loose {s : String} (h : Loose s) : ∃ ip, parseIpv4 s = .ok ip := by
  obtain ⟨p₀, p₁, p₂, p₃, hsplit, hparts, -⟩ := h
  simp only [List.forall_mem_cons, octetLike_iff] at hparts
  obtain ⟨⟨a, ha⟩, ⟨b, hb⟩, ⟨c, hc⟩, ⟨d, hd⟩, -⟩ := hparts
  exact ⟨#v[a, b, c, d],
    parseIpv4_iff.mpr ⟨p₀, p₁, p₂, p₃, a, b, c, d, hsplit, ha, hb, hc, hd, rfl⟩⟩

/-- An address of the BDT is parsed as an interface address is, and read back only from
what it is written as, exactly when the text is not loose. -/
theorem bdt_address_strict_iff (s : String) :
    ((∀ ip, parseIpv4 s = .ok ip ↔ Ipv4.fromStr s = some ip) ↔ ¬ Loose s) ∧
      ((∀ ip, parseIpv4 s = .ok ip ↔ s = ipText ip) ↔ ¬ Loose s) := by
  simp only [fromStr_iff, and_self]
  constructor
  · intro h hloose
    obtain ⟨ip, hip⟩ := parse_of_loose hloose
    obtain rfl := (h ip).mp hip
    exact not_loose_ipText ip hloose
  · intro hloose ip
    constructor
    · exact fun h => eq_ipText_of_parse h hloose
    · rintro rfl
      exact parseIpv4_ipText ip

/-- A plus sign and a padded zero are both let through. -/
theorem plus_and_zero_let_through :
    parseIpv4 "+10.0.0.001" = .ok #v[10, 0, 0, 1] ∧
      ¬ ∀ ip, parseIpv4 "+10.0.0.001" = .ok ip ↔ Ipv4.fromStr "+10.0.0.001" = some ip := by
  have hbdt : parseIpv4 "+10.0.0.001" = .ok #v[10, 0, 0, 1] := by decide +kernel
  have hinterface : Ipv4.fromStr "+10.0.0.001" = none := by decide +kernel
  exact ⟨hbdt, fun h => nomatch hinterface.symm.trans ((h _).mp hbdt)⟩

end BacnetBridge
