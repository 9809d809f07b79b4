import Mathlib.Data.List.Induction

/-! Decimal numerals: the texts that numbers are written as. Nothing here depends on
what is numbered. -/
namespace Decimal

/-- At least one digit, and no zero in front of others. -/
structure Numeral (digits : List Char) : Prop where
  nonempty : digits ≠ []
  digit : ∀ c ∈ digits, c.isDigit
  leading : digits.head? = some '0' → digits.length = 1

theorem head?_append {digits : List Char} (h : digits ≠ []) (more : List Char) :
    (digits ++ more).head? = digits.head? := by
  cases digits with
  | nil => exact absurd rfl h
  | cons c digits => rfl

/-- The digits are ten characters in a row. -/
theorem isDigit_bounds {c : Char} (h : c.isDigit) :
    '0'.toNat ≤ c.toNat ∧ c.toNat - '0'.toNat < 10 := by
  obtain ⟨hlow, hhigh⟩ : 48 ≤ c.toNat ∧ c.toNat ≤ 57 := by
    simpa [Char.isDigit, UInt32.le_iff_toNat_le] using h
  simp only [Char.reduceToNat]
  omega

theorem digitChar_of_isDigit {c : Char} (h : c.isDigit) : (c.toNat - '0'.toNat).digitChar = c := by
  obtain ⟨hlow, hlt⟩ := isDigit_bounds h
  apply Char.toNat_inj.mp
  rw [Nat.toNat_digitChar_of_lt_ten hlt]
  simp only [Char.reduceToNat] at hlow ⊢
  omega

/-- A number is written as a numeral. -/
theorem numeral_toDigits (n : Nat) : Numeral (Nat.toDigits 10 n) where
  nonempty := Nat.toDigits_ne_nil
  digit _ hc := Nat.isDigit_of_mem_toDigits (by decide) (by decide) hc
  leading h := by
    induction n using Nat.base_induction 10 (by decide) with
    | single m hm => rw [Nat.toDigits_of_lt_base hm, List.length_singleton]
    | digit m k hk hm ih =>
      rw [← Nat.toDigits_append_toDigits (by decide) hm hk,
        head?_append Nat.toDigits_ne_nil] at h
      have hzero : Nat.toDigits 10 m = ['0'] := by
        obtain ⟨c, hc⟩ := List.length_eq_one_iff.mp (ih h)
        rw [hc] at h ⊢
        simpa using h
      have hvalue : m = Nat.ofDigitChars 10 ['0'] 0 := by
        rw [← hzero, Nat.ofDigitChars_ten_toDigits]
      exact absurd hvalue (Nat.pos_iff_ne_zero.mp hm)

/-- A numeral is what its value is written as. -/
theorem toDigits_ofDigitChars {digits : List Char} (h : Numeral digits) :
    Nat.toDigits 10 (Nat.ofDigitChars 10 digits 0) = digits := by
  induction digits using List.reverseRecOn with
  | nil => exact absurd rfl h.nonempty
  | append_singleton digits c ih =>
    have hc : c.isDigit := h.digit c (by simp)
    have hlt := (isDigit_bounds hc).2
    have hone : Nat.toDigits 10 (c.toNat - '0'.toNat) = [c] := by
      rw [Nat.toDigits_of_lt_base hlt, digitChar_of_isDigit hc]
    have hvalue : Nat.ofDigitChars 10 (digits ++ [c]) 0 =
        10 * Nat.ofDigitChars 10 digits 0 + (c.toNat - '0'.toNat) := by
      rw [Nat.ofDigitChars_append, Nat.ofDigitChars_cons, Nat.ofDigitChars_nil]
    rw [hvalue]
    by_cases hempty : digits = []
    · subst hempty
      simpa using hone
    · have hleading : digits.head? ≠ some '0' := by
        intro hzero
        have hlength := h.leading (by rwa [head?_append hempty])
        rw [List.length_append, List.length_singleton] at hlength
        exact hempty (List.eq_nil_of_length_eq_zero (by omega))
      have hrest : Nat.toDigits 10 (Nat.ofDigitChars 10 digits 0) = digits :=
        ih ⟨hempty, fun d hd => h.digit d (by simp [hd]), fun hzero => absurd hzero hleading⟩
      have hpos : 0 < Nat.ofDigitChars 10 digits 0 := by
        apply Nat.pos_of_ne_zero
        intro hzero
        rw [hzero, Nat.toDigits_zero] at hrest
        exact hleading (by rw [← hrest]; rfl)
      rw [← Nat.toDigits_append_toDigits (by decide) hpos hlt, hrest, hone]

end Decimal
