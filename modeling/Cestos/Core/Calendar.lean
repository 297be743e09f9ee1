import Mathlib.Order.Lattice
import Mathlib.Order.RelIso.Basic
import Mathlib.Tactic.Common

/-!
# Calendar

Days of the Gregorian calendar in their order, and moments of a day to the microsecond. To add a
month keeps the day, or takes the last one of a month that is too short.
-/

namespace Cestos.Core

def leapYear (year : Nat) : Bool :=
  year % 4 = 0 && (year % 100 ≠ 0 || year % 400 = 0)

def monthLength (year month : Nat) : Nat :=
  if month = 2 then if leapYear year then 29 else 28
  else if month = 4 ∨ month = 6 ∨ month = 9 ∨ month = 11 then 30
  else 31

theorem monthLength_pos (year month : Nat) : 1 ≤ monthLength year month := by
  unfold monthLength
  split
  · split <;> omega
  · split <;> omega

theorem monthLength_le (year month : Nat) : monthLength year month ≤ 31 := by
  unfold monthLength
  split
  · split <;> omega
  · split <;> omega

@[ext]
structure CalendarDate where
  year : Nat
  month : Nat
  day : Nat
  month_pos : 1 ≤ month
  month_le : month ≤ 12
  day_pos : 1 ≤ day
  day_le : day ≤ monthLength year month
  deriving DecidableEq

/-- There is a date of these numbers. -/
def IsDate (year month day : Nat) : Prop :=
  (1 ≤ month ∧ month ≤ 12) ∧ 1 ≤ day ∧ day ≤ monthLength year month

instance (year month day : Nat) : Decidable (IsDate year month day) :=
  inferInstanceAs (Decidable ((_ ∧ _) ∧ _ ∧ _))

namespace CalendarDate

def of (year month day : Nat) (h : IsDate year month day) : CalendarDate :=
  ⟨year, month, day, h.1.1, h.1.2, h.2.1, h.2.2⟩

/-- A number that grows with the date. Months are given 31 numbers each. -/
def serial (d : CalendarDate) : Nat := (d.year * 12 + (d.month - 1)) * 31 + (d.day - 1)

theorem day_le_31 (d : CalendarDate) : d.day ≤ 31 :=
  d.day_le.trans (monthLength_le d.year d.month)

theorem serial_injective : Function.Injective serial := by
  intro d e h
  have hd := d.day_le_31
  have he := e.day_le_31
  have hdpos := d.day_pos
  have hepos := e.day_pos
  have hdmonth := d.month_pos
  have hemonth := e.month_pos
  have hdle := d.month_le
  have hele := e.month_le
  unfold serial at h
  ext
  · omega
  · omega
  · omega

/-- The day after. -/
def next (d : CalendarDate) : CalendarDate :=
  if h : d.day < monthLength d.year d.month then
    ⟨d.year, d.month, d.day + 1, d.month_pos, d.month_le, Nat.le_add_left _ _, h⟩
  else if h : d.month < 12 then
    ⟨d.year, d.month + 1, 1, Nat.le_add_left _ _, h, Nat.le_refl _, monthLength_pos _ _⟩
  else ⟨d.year + 1, 1, 1, Nat.le_refl _, by omega, Nat.le_refl _, monthLength_pos _ _⟩

theorem serial_lt_next (d : CalendarDate) : d.serial < d.next.serial := by
  have hday := d.day_le_31
  have hpos := d.day_pos
  have hmonth := d.month_le
  have hmonthpos := d.month_pos
  unfold next
  split
  · show _ < (d.year * 12 + (d.month - 1)) * 31 + (d.day + 1 - 1)
    unfold serial
    omega
  · split
    · show _ < (d.year * 12 + (d.month + 1 - 1)) * 31 + (1 - 1)
      unfold serial
      omega
    · show _ < ((d.year + 1) * 12 + (1 - 1)) * 31 + (1 - 1)
      unfold serial
      omega

def addDays : Nat → CalendarDate → CalendarDate
  | 0, d => d
  | n + 1, d => (addDays n d).next

theorem serial_le_addDays (n : Nat) (d : CalendarDate) : d.serial ≤ (addDays n d).serial := by
  induction n with
  | zero => exact Nat.le_refl _
  | succ n ih => exact ih.trans (serial_lt_next _).le

/-- The same day of the next month, or its last day. -/
def nextMonth (d : CalendarDate) : CalendarDate where
  year := d.year + d.month / 12
  month := d.month % 12 + 1
  day := min d.day (monthLength (d.year + d.month / 12) (d.month % 12 + 1))
  month_pos := Nat.le_add_left _ _
  month_le := by omega
  day_pos := le_min d.day_pos (monthLength_pos _ _)
  day_le := min_le_right _ _

theorem serial_lt_nextMonth (d : CalendarDate) : d.serial < d.nextMonth.serial := by
  have hday := d.day_le_31
  have hpos := d.day_pos
  have hmonth := d.month_le
  have hmonthpos := d.month_pos
  show _ < ((d.year + d.month / 12) * 12 + (d.month % 12 + 1 - 1)) * 31 + (d.nextMonth.day - 1)
  unfold serial
  omega

/-! ## Months later -/

/-- The months are numbered through all the years. -/
def monthNumber (d : CalendarDate) : Nat := d.year * 12 + (d.month - 1)

def lengthOf (monthNumber : Nat) : Nat := monthLength (monthNumber / 12) (monthNumber % 12 + 1)

/-- A month added `n` times. -/
def laterMonths : Nat → CalendarDate → CalendarDate
  | 0, d => d
  | n + 1, d => (laterMonths n d).nextMonth

theorem monthNumber_nextMonth (d : CalendarDate) : d.nextMonth.monthNumber = d.monthNumber + 1 := by
  have hmonth := d.month_le
  have hpos := d.month_pos
  show (d.year + d.month / 12) * 12 + (d.month % 12 + 1 - 1) = d.year * 12 + (d.month - 1) + 1
  omega

theorem day_le_lengthOf (d : CalendarDate) : d.day ≤ lengthOf d.monthNumber := by
  have hday := d.day_le
  have hmonth := d.month_le
  have hpos := d.month_pos
  have hyear : (d.year * 12 + (d.month - 1)) / 12 = d.year := by omega
  have hnumber : (d.year * 12 + (d.month - 1)) % 12 + 1 = d.month := by omega
  unfold lengthOf monthNumber
  rwa [hyear, hnumber]

theorem day_nextMonth (d : CalendarDate) :
    d.nextMonth.day = min d.day (lengthOf (d.monthNumber + 1)) := by
  have hmonth := d.month_le
  have hpos := d.month_pos
  have hyear : (d.year * 12 + (d.month - 1) + 1) / 12 = d.year + d.month / 12 := by omega
  have hnumber : (d.year * 12 + (d.month - 1) + 1) % 12 + 1 = d.month % 12 + 1 := by omega
  unfold lengthOf monthNumber
  rw [hyear, hnumber]
  rfl

theorem monthNumber_laterMonths (n : Nat) (d : CalendarDate) :
    (laterMonths n d).monthNumber = d.monthNumber + n := by
  induction n with
  | zero => rfl
  | succ n ih => rw [laterMonths, monthNumber_nextMonth, ih, Nat.add_assoc]

/-- The least of the day to begin with and of the lengths of the months that are passed. -/
structure IsClamped (d : CalendarDate) (n day : Nat) : Prop where
  le_day : day ≤ d.day
  le_length : ∀ k, 1 ≤ k → k ≤ n → day ≤ lengthOf (d.monthNumber + k)
  reached : day = d.day ∨ ∃ k, 1 ≤ k ∧ k ≤ n ∧ day = lengthOf (d.monthNumber + k)

theorem isClamped_laterMonths (n : Nat) (d : CalendarDate) :
    IsClamped d n (laterMonths n d).day := by
  induction n with
  | zero => exact ⟨Nat.le_refl _, fun k hpos hk => by omega, .inl rfl⟩
  | succ n ih =>
      have hday : (laterMonths (n + 1) d).day =
          min (laterMonths n d).day (lengthOf (d.monthNumber + (n + 1))) := by
        rw [laterMonths, day_nextMonth, monthNumber_laterMonths, Nat.add_assoc]
      rw [hday]
      refine ⟨(Nat.min_le_left _ _).trans ih.le_day, fun k hpos hk => ?_, ?_⟩
      · rcases Nat.lt_or_eq_of_le hk with hlt | rfl
        · exact (Nat.min_le_left _ _).trans (ih.le_length k hpos (by omega))
        · exact Nat.min_le_right _ _
      · rcases Nat.le_total (laterMonths n d).day (lengthOf (d.monthNumber + (n + 1))) with hle | hle
        · rw [Nat.min_eq_left hle]
          rcases ih.reached with hstart | ⟨k, hpos, hk, hlength⟩
          · exact .inl hstart
          · exact .inr ⟨k, hpos, by omega, hlength⟩
        · rw [Nat.min_eq_right hle]
          exact .inr ⟨n + 1, by omega, Nat.le_refl _, rfl⟩

/-- The day is kept, up to the length of the month, as long as no month passed is too short. -/
theorem IsClamped.eq_min_iff {d : CalendarDate} {n day : Nat} (h : IsClamped d n day)
    (hlast : day ≤ lengthOf (d.monthNumber + n)) :
    day = min d.day (lengthOf (d.monthNumber + n)) ↔
      ∀ k, 1 ≤ k → k ≤ n →
        min d.day (lengthOf (d.monthNumber + n)) ≤ lengthOf (d.monthNumber + k) := by
  constructor
  · intro heq k hpos hk
    rw [← heq]
    exact h.le_length k hpos hk
  · intro hlong
    refine Nat.le_antisymm (Nat.le_min.2 ⟨h.le_day, hlast⟩) ?_
    rcases h.reached with hstart | ⟨k, hpos, hk, hlength⟩
    · rw [hstart]
      exact Nat.min_le_left _ _
    · rw [hlength]
      exact hlong k hpos hk

end CalendarDate

@[ext]
structure Moment where
  date : CalendarDate
  microsecond : Nat
  microsecond_lt : microsecond < 86400000000
  deriving DecidableEq

namespace Moment

/-- A number that grows with the moment. -/
def serial (m : Moment) : Nat := m.date.serial * 86400000000 + m.microsecond

theorem serial_injective : Function.Injective serial := by
  intro m n h
  have hm := m.microsecond_lt
  have hn := n.microsecond_lt
  unfold serial at h
  ext1
  · apply CalendarDate.serial_injective
    omega
  · omega

instance : LinearOrder Moment := LinearOrder.lift' serial serial_injective

theorem le_def {m n : Moment} : m ≤ n ↔ m.serial ≤ n.serial := Iff.rfl

def addDays (n : Nat) (m : Moment) : Moment := { m with date := m.date.addDays n }

def nextMonth (m : Moment) : Moment := { m with date := m.date.nextMonth }

/-- A number with leading zeros. -/
def digits (width n : Nat) : String :=
  let text := (toString n).toList
  String.ofList (List.replicate (width - text.length) '0' ++ text)

/-- The text of a moment in UTC; no microseconds are written if there are none. -/
def isoformat (m : Moment) : String :=
  let second := m.microsecond / 1000000
  let fraction := m.microsecond % 1000000
  digits 4 m.date.year ++ "-" ++ digits 2 m.date.month ++ "-" ++ digits 2 m.date.day ++ "T" ++
    digits 2 (second / 3600) ++ ":" ++ digits 2 (second / 60 % 60) ++ ":" ++ digits 2 (second % 60) ++
    (if fraction = 0 then "" else "." ++ digits 6 fraction) ++ "+00:00"

theorem le_addDays (n : Nat) (m : Moment) : m ≤ m.addDays n := by
  have hdate := m.date.serial_le_addDays n
  apply le_def.2
  show m.serial ≤ (m.date.addDays n).serial * 86400000000 + m.microsecond
  unfold serial
  omega

theorem le_nextMonth (m : Moment) : m ≤ m.nextMonth := by
  have hdate := m.date.serial_lt_nextMonth
  apply le_def.2
  show m.serial ≤ m.date.nextMonth.serial * 86400000000 + m.microsecond
  unfold serial
  omega

end Moment

end Cestos.Core
