import Mathlib.Data.List.Lex
import BacnetBridge.Fdt
import BacnetBridge.Gregorian

/-! The fields that `epoch_to_iso` computes before it prints them, as dates of the
Gregorian calendar. -/
namespace BacnetBridge

structure CivilTime where
  year : Nat
  month : Nat
  day : Nat
  hours : Nat
  minutes : Nat
  seconds : Nat
  millis : Nat
  deriving DecidableEq, Repr

namespace CivilTime

def iso (t : CivilTime) : String :=
  zeroPadded 4 t.year ++ "-" ++ zeroPadded 2 t.month ++ "-" ++ zeroPadded 2 t.day ++ "T" ++
    zeroPadded 2 t.hours ++ ":" ++ zeroPadded 2 t.minutes ++ ":" ++ zeroPadded 2 t.seconds ++
    "." ++ zeroPadded 3 t.millis ++ "Z"

def fields (t : CivilTime) : List Nat :=
  [t.year, t.month, t.day, t.hours, t.minutes, t.seconds, t.millis]

/-- Days from 1970-01-01. -/
def days (t : CivilTime) : Int :=
  Gregorian.dayNumber t.year t.month t.day - Gregorian.dayNumber 1970 1 1

/-- Seconds from its start. -/
def secs (t : CivilTime) : Int := t.days * 86400 + t.hours * 3600 + t.minutes * 60 + t.seconds

/-- A date of the calendar and a time of the day. -/
structure Valid (t : CivilTime) : Prop where
  date : Gregorian.ValidDate t.year t.month t.day
  hours : t.hours < 24
  minutes : t.minutes < 60
  seconds : t.seconds < 60

end CivilTime

/-- What `epoch_to_iso` prints. -/
def epochFields (secs millis : Nat) : CivilTime :=
  let (year, dayOfYear) := civilYear 1970 (secs / 86400)
  let (month, dayOfMonth) := civilMonth 1 dayOfYear (monthDays year)
  { year
    month
    day := dayOfMonth + 1
    hours := secs % 86400 / 3600
    minutes := secs % 86400 % 3600 / 60
    seconds := secs % 86400 % 3600 % 60
    millis }

theorem epochToIso_eq (secs millis : Nat) :
    epochToIso secs millis = (epochFields secs millis).iso := rfl

/-! ## The loops -/

theorem isLeap_iff (year : Nat) : isLeap year ↔ Gregorian.LeapYear year := by
  unfold isLeap Gregorian.LeapYear
  simp only [Bool.or_eq_true, Bool.and_eq_true, beq_iff_eq, bne_iff_ne]
  omega

theorem yearDays_eq (year : Nat) : yearDays year = Gregorian.yearLength year := by
  simp only [yearDays, Gregorian.yearLength, isLeap_iff]

theorem monthDays_eq (year : Nat) : monthDays year = Gregorian.monthLengths year := by
  simp only [monthDays, Gregorian.monthLengths, isLeap_iff]

/-- The loop over the years keeps the day that it counts from the start of one. -/
theorem civilYear_spec (year day : Nat) :
    Gregorian.daysBeforeYear (civilYear year day).1 + (civilYear year day).2 =
        Gregorian.daysBeforeYear year + day ∧
      (civilYear year day).2 < Gregorian.yearLength (civilYear year day).1 := by
  fun_induction civilYear year day with
  | case1 year day h => exact ⟨rfl, yearDays_eq year ▸ h⟩
  | case2 year day h ih =>
    refine ⟨?_, ih.2⟩
    rw [ih.1, Gregorian.daysBeforeYear_succ, yearDays_eq]
    rw [yearDays_eq] at h
    omega

/-- The loop over the months ends before the list does. -/
theorem civilMonth_spec (month day : Nat) {lengths : List Nat} (h : day < lengths.sum) :
    ∃ index rest, civilMonth month day lengths = (month + index, rest) ∧
      index < lengths.length ∧ rest < (lengths[index]?).getD 0 ∧
      (lengths.take index).sum + rest = day := by
  induction lengths generalizing month day with
  | nil => cases h
  | cons length lengths ih =>
    rw [List.sum_cons] at h
    by_cases hday : day < length
    · exact ⟨0, day, by simp [civilMonth, hday], by simp, by simpa using hday, by simp⟩
    · obtain ⟨index, rest, hloop, hindex, hrest, hsum⟩ := ih (month + 1) (day - length) (by omega)
      refine ⟨index + 1, rest, ?_, by simpa using hindex, by simpa using hrest, ?_⟩
      · rw [civilMonth, if_neg hday, hloop]
        simp only [Prod.mk.injEq, and_true]
        omega
      · simp only [List.take_succ_cons, List.sum_cons]
        omega

/-! ## The fields -/

theorem epochFields_date (secs millis : Nat) :
    Gregorian.ValidDate (epochFields secs millis).year (epochFields secs millis).month
        (epochFields secs millis).day ∧
      Gregorian.dayNumber (epochFields secs millis).year (epochFields secs millis).month
        (epochFields secs millis).day = Gregorian.dayNumber 1970 1 1 + secs / 86400 := by
  obtain ⟨hyear, hday⟩ := civilYear_spec 1970 (secs / 86400)
  unfold epochFields
  generalize civilYear 1970 (secs / 86400) = found at hyear hday ⊢
  obtain ⟨year, dayOfYear⟩ := found
  rw [← Gregorian.sum_monthLengths] at hday
  obtain ⟨index, rest, hloop, hindex, hrest, hsum⟩ := civilMonth_spec 1 dayOfYear hday
  rw [Nat.add_comm] at hloop
  dsimp only at hyear
  simp only [monthDays_eq, hloop]
  have hmonth : Gregorian.daysBeforeMonth year (index + 1) + rest = dayOfYear := hsum
  have hlength : rest < Gregorian.monthLength year (index + 1) := hrest
  constructor
  · exact ⟨Nat.le_add_left .., hindex, Nat.le_add_left .., hlength⟩
  · have hepoch : Gregorian.dayNumber 1970 1 1 = Gregorian.daysBeforeYear 1970 := rfl
    unfold Gregorian.dayNumber at hepoch ⊢
    omega

theorem epochFields_valid (secs millis : Nat) : (epochFields secs millis).Valid where
  date := (epochFields_date secs millis).1
  hours := by
    have : secs % 86400 < 86400 := Nat.mod_lt _ (by decide)
    exact Nat.div_lt_of_lt_mul this
  minutes := Nat.div_lt_of_lt_mul (Nat.mod_lt _ (by decide))
  seconds := Nat.mod_lt _ (by decide)

theorem epochFields_secs (secs millis : Nat) :
    (epochFields secs millis).secs = secs := by
  have hdays : (epochFields secs millis).days = (secs / 86400 : Nat) := by
    have hnumber := (epochFields_date secs millis).2
    unfold CivilTime.days
    omega
  have hhours : (epochFields secs millis).hours = secs % 86400 / 3600 := rfl
  have hminutes : (epochFields secs millis).minutes = secs % 86400 % 3600 / 60 := rfl
  have hseconds : (epochFields secs millis).seconds = secs % 86400 % 3600 % 60 := rfl
  unfold CivilTime.secs
  omega

/-! ## Their order -/

/-- Of two times the one with the earlier fields has fewer seconds, or as many and
fewer milliseconds. -/
theorem CivilTime.Valid.lt {t t' : CivilTime} (h : t.Valid) (h' : t'.Valid)
    (hlt : t.fields < t'.fields) : t.secs < t'.secs ∨ t.secs = t'.secs ∧ t.millis < t'.millis := by
  obtain ⟨hdate, hhours, hminutes, hseconds⟩ := h
  obtain ⟨hdate', hhours', hminutes', hseconds'⟩ := h'
  have hnumber := Gregorian.dayNumber_lt hdate hdate'
  simp only [CivilTime.fields, List.cons_lt_cons_iff, List.lt_irrefl, and_false, or_false] at hlt
  unfold CivilTime.secs CivilTime.days
  obtain hyear | ⟨hyear, hmonth | ⟨hmonth, hday | ⟨hday, hclock⟩⟩⟩ := hlt
  · have := hnumber (.inl hyear)
    omega
  · have := hnumber (.inr ⟨hyear, .inl hmonth⟩)
    omega
  · have := hnumber (.inr ⟨hyear, .inr ⟨hmonth, hday⟩⟩)
    omega
  · rw [hyear, hmonth, hday]
    omega

theorem CivilTime.fields_inj {t t' : CivilTime} (h : t.fields = t'.fields) : t = t' := by
  obtain ⟨_, _, _, _, _, _, _⟩ := t
  obtain ⟨_, _, _, _, _, _, _⟩ := t'
  simpa [CivilTime.fields] using h

theorem epochFields_inj {secs millis secs' millis' : Nat}
    (h : epochFields secs millis = epochFields secs' millis') :
    secs = secs' ∧ millis = millis' := by
  have hsecs := congrArg CivilTime.secs h
  rw [epochFields_secs, epochFields_secs] at hsecs
  exact ⟨Int.ofNat_inj.mp hsecs, congrArg CivilTime.millis h⟩

theorem epochFields_lt {secs millis secs' millis' : Nat}
    (h : secs < secs' ∨ secs = secs' ∧ millis < millis') :
    (epochFields secs millis).fields < (epochFields secs' millis').fields := by
  have hsecs := epochFields_secs secs millis
  have hsecs' := epochFields_secs secs' millis'
  have hmillis : ∀ s m, (epochFields s m).millis = m := fun _ _ => rfl
  obtain hlt | heq | hgt := lt_trichotomy (epochFields secs millis).fields
    (epochFields secs' millis').fields
  · exact hlt
  · obtain ⟨hseconds, hsame⟩ := epochFields_inj (CivilTime.fields_inj heq)
    omega
  · have hle := (epochFields_valid secs' millis').lt (epochFields_valid secs millis) hgt
    rw [hsecs, hsecs', hmillis, hmillis] at hle
    omega

/-- `epoch_to_iso` prints a date of the Gregorian calendar and a time of that day, which
are as many seconds after the start of 1970 as it was given; other arguments make other
fields, and later times later ones. -/
theorem epoch_to_iso_gregorian (secs millis : Nat) :
    epochToIso secs millis = (epochFields secs millis).iso ∧
    (epochFields secs millis).Valid ∧
    (epochFields secs millis).secs = secs ∧ (epochFields secs millis).millis = millis ∧
    (∀ secs' millis', epochFields secs millis = epochFields secs' millis' →
      secs = secs' ∧ millis = millis') ∧
    ∀ secs' millis', millis < 1000 → millis' < 1000 →
      secs * 1000 + millis < secs' * 1000 + millis' →
      (epochFields secs millis).fields < (epochFields secs' millis').fields := by
  refine ⟨epochToIso_eq secs millis, epochFields_valid secs millis, epochFields_secs secs millis,
    rfl, fun _ _ => epochFields_inj, ?_⟩
  intro secs' millis' hmillis hmillis' hlater
  exact epochFields_lt (by omega)

end BacnetBridge
