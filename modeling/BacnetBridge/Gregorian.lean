import Mathlib.Algebra.BigOperators.Group.List.Basic
import Mathlib.Algebra.GroupWithZero.Nat
import Mathlib.Algebra.Order.BigOperators.Group.List
import Mathlib.Algebra.Order.Group.Nat
import Mathlib.Order.Monotone.Basic

/-! The proleptic Gregorian calendar: its leap rule, its months, and the number of a
day counted from the start of year 0. Nothing here depends on where dates come from. -/
namespace Gregorian

def LeapYear (year : Nat) : Prop := year % 4 = 0 ∧ (year % 100 = 0 → year % 400 = 0)

instance : DecidablePred LeapYear := fun year =>
  inferInstanceAs (Decidable (year % 4 = 0 ∧ (year % 100 = 0 → year % 400 = 0)))

def yearLength (year : Nat) : Nat := if LeapYear year then 366 else 365

/-- The lengths of the months, January first. -/
def monthLengths (year : Nat) : List Nat :=
  [31, if LeapYear year then 29 else 28, 31, 30, 31, 30, 31, 31, 30, 31, 30, 31]

/-- The length of a month, which is 0 outside 1 to 12. -/
def monthLength (year : Nat) : Nat → Nat
  | 0 => 0
  | month + 1 => ((monthLengths year)[month]?).getD 0

def ValidDate (year month day : Nat) : Prop :=
  1 ≤ month ∧ month ≤ 12 ∧ 1 ≤ day ∧ day ≤ monthLength year month

/-- The days before a year: 365 for each year before it, and its leap days. -/
def daysBeforeYear (year : Nat) : Nat :=
  365 * year + (year + 3) / 4 - (year + 99) / 100 + (year + 399) / 400

def daysBeforeMonth (year month : Nat) : Nat := ((monthLengths year).take (month - 1)).sum

def dayNumber (year month day : Nat) : Nat :=
  daysBeforeYear year + daysBeforeMonth year month + (day - 1)

/-! ## Years -/

theorem daysBeforeYear_succ (year : Nat) :
    daysBeforeYear (year + 1) = daysBeforeYear year + yearLength year := by
  have h4 : (year + 1 + 3) / 4 = (year + 3) / 4 + if year % 4 = 0 then 1 else 0 := by
    split <;> omega
  have h100 : (year + 1 + 99) / 100 = (year + 99) / 100 + if year % 100 = 0 then 1 else 0 := by
    split <;> omega
  have h400 : (year + 1 + 399) / 400 = (year + 399) / 400 + if year % 400 = 0 then 1 else 0 := by
    split <;> omega
  have hle : (year + 99) / 100 ≤ (year + 3) / 4 := by omega
  have hcentury : year % 100 = 0 → year % 4 = 0 := by omega
  have hcycle : year % 400 = 0 → year % 100 = 0 := by omega
  unfold daysBeforeYear
  rw [h4, h100, h400]
  -- A year is divisible by none of the three, by 4, by 4 and 100, or by all.
  by_cases by4 : year % 4 = 0
  · by_cases by100 : year % 100 = 0
    · by_cases by400 : year % 400 = 0
      · simp only [yearLength, LeapYear, by4, by100, by400, if_true, and_self, implies_true]
        omega
      · simp [yearLength, LeapYear, by4, by100, by400]
        omega
    · have by400 := mt hcycle by100
      simp [yearLength, LeapYear, by4, by100, by400]
      omega
  · have by100 := mt hcentury by4
    have by400 := mt hcycle by100
    simp [yearLength, LeapYear, by4, by100, by400]
    omega

theorem daysBeforeYear_mono : Monotone daysBeforeYear :=
  monotone_nat_of_le_succ fun year => by
    rw [daysBeforeYear_succ]
    exact Nat.le_add_right ..

/-! ## Months -/

theorem length_monthLengths (year : Nat) : (monthLengths year).length = 12 := rfl

theorem sum_monthLengths (year : Nat) : (monthLengths year).sum = yearLength year := by
  unfold monthLengths yearLength
  split <;> rfl

theorem daysBeforeMonth_succ {year month : Nat} (h : 1 ≤ month) (h' : month ≤ 12) :
    daysBeforeMonth year (month + 1) = daysBeforeMonth year month + monthLength year month := by
  obtain ⟨index, rfl⟩ : ∃ index, month = index + 1 := ⟨month - 1, by omega⟩
  have hindex : index < (monthLengths year).length := by
    rw [length_monthLengths]
    omega
  simp only [daysBeforeMonth, monthLength, Nat.add_sub_cancel, List.getElem?_eq_getElem hindex,
    Option.getD_some]
  exact List.sum_take_succ _ _ hindex

theorem daysBeforeMonth_mono (year : Nat) : Monotone (daysBeforeMonth year) :=
  fun _ _ h => List.monotone_sum_take _ (Nat.sub_le_sub_right h 1)

theorem daysBeforeMonth_le (year month : Nat) : daysBeforeMonth year month ≤ yearLength year := by
  have hle := List.monotone_sum_take (monthLengths year) (Nat.le_max_left (month - 1) 12)
  have hall : (monthLengths year).take (max (month - 1) 12) = monthLengths year :=
    List.take_of_length_le (Nat.le_max_right ..)
  simp only [hall, sum_monthLengths] at hle
  exact hle

/-! ## Days -/

theorem ValidDate.lt_month {year month month' day : Nat} (h : ValidDate year month day)
    (hlt : month < month') :
    daysBeforeMonth year month + (day - 1) < daysBeforeMonth year month' := by
  obtain ⟨hlow, hhigh, hday, hlast⟩ := h
  have hsucc : daysBeforeMonth year (month + 1) =
      daysBeforeMonth year month + monthLength year month := daysBeforeMonth_succ hlow hhigh
  have hmono := daysBeforeMonth_mono year hlt
  rw [Nat.succ_eq_add_one] at hmono
  omega

/-- A day of a year comes before the next year. -/
theorem ValidDate.lt_year {year year' month day : Nat} (h : ValidDate year month day)
    (hlt : year < year') : dayNumber year month day < daysBeforeYear year' := by
  have hday := h.lt_month (Nat.lt_add_one month)
  have hmonth := daysBeforeMonth_le year (month + 1)
  have hsucc := daysBeforeYear_succ year
  have hmono := daysBeforeYear_mono hlt
  rw [Nat.succ_eq_add_one] at hmono
  unfold dayNumber
  omega

/-- Of two dates the one with the earlier year, or month, or day has the smaller number. -/
theorem dayNumber_lt {year month day year' month' day' : Nat} (h : ValidDate year month day)
    (h' : ValidDate year' month' day')
    (hlt : year < year' ∨ year = year' ∧ (month < month' ∨ month = month' ∧ day < day')) :
    dayNumber year month day < dayNumber year' month' day' := by
  obtain hyear | ⟨rfl, hmonth | ⟨rfl, hday⟩⟩ := hlt
  · have := h.lt_year hyear
    unfold dayNumber at this ⊢
    omega
  · have := h.lt_month hmonth
    unfold dayNumber
    omega
  · have := h.2.2.1
    unfold dayNumber
    omega

end Gregorian
