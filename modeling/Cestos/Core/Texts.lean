import Mathlib.Algebra.Group.Nat.Defs
import Mathlib.Data.Char
import Mathlib.Data.List.Lex
import Cestos.Core.Calendar

/-!
# Texts of numbers

Texts that compare as the numbers they stand for: digits of a fixed width, and one text after
another of a fixed length. The texts of dates and moments are in the order of time.
-/

namespace Cestos.Core

/-- Two texts are in the order of two numbers. -/
structure Compares (a b : List Char) (m n : Nat) : Prop where
  lt : a < b ↔ m < n
  eq : a = b ↔ m = n

theorem append_lt_append_iff {a b c d : List Char} (h : a.length = b.length) :
    a ++ c < b ++ d ↔ a < b ∨ a = b ∧ c < d := by
  induction a generalizing b with
  | nil =>
      obtain rfl := List.length_eq_zero_iff.1 h.symm
      simp
  | cons x a ih =>
      cases b with
      | nil => cases h
      | cons y b =>
          rw [List.cons_append, List.cons_append, List.cons_lt_cons_iff, List.cons_lt_cons_iff,
            ih (Nat.succ.inj h), List.cons.injEq]
          tauto

theorem append_eq_append_iff {a b c d : List Char} (h : a.length = b.length) :
    a ++ c = b ++ d ↔ a = b ∧ c = d :=
  ⟨fun heq => List.append_inj heq h, fun ⟨ha, hc⟩ => ha ▸ hc ▸ rfl⟩

theorem mul_add_lt_iff {bound m n p q : Nat} (hp : p < bound) (hq : q < bound) :
    m * bound + p < n * bound + q ↔ m < n ∨ m = n ∧ p < q := by
  rcases Nat.lt_trichotomy m n with hmn | rfl | hmn
  · have hle : (m + 1) * bound ≤ n * bound := Nat.mul_le_mul_right _ hmn
    rw [Nat.add_mul] at hle
    omega
  · omega
  · have hle : (n + 1) * bound ≤ m * bound := Nat.mul_le_mul_right _ hmn
    rw [Nat.add_mul] at hle
    omega

theorem mul_add_eq_iff {bound m n p q : Nat} (hp : p < bound) (hq : q < bound) :
    m * bound + p = n * bound + q ↔ m = n ∧ p = q := by
  have hlt := mul_add_lt_iff (m := m) (n := n) hp hq
  have hgt := mul_add_lt_iff (m := n) (n := m) hq hp
  omega

namespace Compares

variable {a b c d : List Char} {m n p q : Nat}

theorem refl (a : List Char) (n : Nat) : Compares a a n n :=
  ⟨by simp, by simp⟩

/-- The first texts decide, and the second ones where the first are the same. -/
theorem append (h : Compares a b m n) (bound : Nat) (hlength : a.length = b.length)
    (h' : Compares c d p q) (hp : p < bound) (hq : q < bound) :
    Compares (a ++ c) (b ++ d) (m * bound + p) (n * bound + q) where
  lt := by rw [append_lt_append_iff hlength, h.lt, h.eq, h'.lt, mul_add_lt_iff hp hq]
  eq := by rw [append_eq_append_iff hlength, h.eq, h'.eq, mul_add_eq_iff hp hq]

/-- The same text in front of both. -/
theorem append_left (a : List Char) (h : Compares c d p q) : Compares (a ++ c) (a ++ d) p q where
  lt := by rw [append_lt_append_iff rfl, h.lt]; simp
  eq := by rw [append_eq_append_iff rfl, h.eq]; simp

/-- The same text after both. -/
theorem append_right (h : Compares a b m n) (hlength : a.length = b.length) (c : List Char) :
    Compares (a ++ c) (b ++ c) m n where
  lt := by rw [append_lt_append_iff hlength, h.lt]; simp
  eq := by rw [append_eq_append_iff hlength, h.eq]; simp

end Compares

/-! ## Digits -/

/-- The last `width` digits of a number. -/
def fixedDigits : Nat → Nat → List Char
  | 0, _ => []
  | width + 1, n => fixedDigits width (n / 10) ++ [(n % 10).digitChar]

@[simp] theorem fixedDigits_length (width n : Nat) : (fixedDigits width n).length = width := by
  induction width generalizing n with
  | zero => rfl
  | succ width ih => simp [fixedDigits, ih]

theorem compares_digitChar {m n : Nat} (hm : m < 10) (hn : n < 10) :
    Compares [m.digitChar] [n.digitChar] m n := by
  have hall : ∀ m < 10, ∀ n < 10, ([m.digitChar] < [n.digitChar] ↔ m < n) ∧
      ([m.digitChar] = [n.digitChar] ↔ m = n) := by decide
  exact ⟨(hall m hm n hn).1, (hall m hm n hn).2⟩

/-- Texts of digits are in the order of their numbers. -/
theorem compares_fixedDigits (width : Nat) {m n : Nat} (hm : m < 10 ^ width) (hn : n < 10 ^ width) :
    Compares (fixedDigits width m) (fixedDigits width n) m n := by
  induction width generalizing m n with
  | zero =>
      obtain rfl : m = 0 := by simpa using hm
      obtain rfl : n = 0 := by simpa using hn
      exact Compares.refl _ _
  | succ width ih =>
      rw [Nat.pow_succ] at hm hn
      have hm' : m / 10 < 10 ^ width := by omega
      have hn' : n / 10 < 10 ^ width := by omega
      have hlast := (ih hm' hn').append 10 (by simp)
        (compares_digitChar (Nat.mod_lt m (by decide)) (Nat.mod_lt n (by decide)))
        (Nat.mod_lt m (by decide)) (Nat.mod_lt n (by decide))
      rwa [Nat.div_add_mod', Nat.div_add_mod'] at hlast

theorem fixedDigits_zero (width : Nat) : fixedDigits width 0 = List.replicate width '0' := by
  induction width with
  | zero => rfl
  | succ width ih => rw [fixedDigits, ih, List.replicate_succ']; rfl

/-- A number filled up with zeros has its last digits. -/
theorem digits_eq {width n : Nat} (hwidth : 0 < width) (h : n < 10 ^ width) :
    List.replicate (width - (Nat.toDigits 10 n).length) '0' ++ Nat.toDigits 10 n =
      fixedDigits width n := by
  induction width generalizing n with
  | zero => cases hwidth
  | succ width ih =>
      by_cases hn : n < 10
      · rw [Nat.toDigits_of_lt_base hn, fixedDigits, Nat.div_eq_of_lt hn, fixedDigits_zero,
          Nat.mod_eq_of_lt hn]
        rfl
      · rw [Nat.pow_succ] at h
        have hpos : 0 < width := by
          rcases Nat.eq_zero_or_pos width with rfl | hpos
          · rw [Nat.pow_zero] at h
            omega
          · exact hpos
        rw [Nat.toDigits_of_base_le (by decide) (by omega), fixedDigits, ← ih hpos (by omega), List.length_append,
          List.append_assoc, List.length_singleton, Nat.add_sub_add_right]

theorem toList_digits {width n : Nat} (hwidth : 0 < width) (h : n < 10 ^ width) :
    (Moment.digits width n).toList = fixedDigits width n := by
  rw [← digits_eq hwidth h]
  simp [Moment.digits, Nat.repr]

/-! ## Dates and moments -/

/-- The text of a date. -/
def CalendarDate.isoformat (d : CalendarDate) : String :=
  Moment.digits 4 d.year ++ "-" ++ Moment.digits 2 d.month ++ "-" ++ Moment.digits 2 d.day

/-- `str` of a moment in UTC, with a blank between the date and the time. -/
def Moment.str (m : Moment) : String :=
  let second := m.microsecond / 1000000
  let fraction := m.microsecond % 1000000
  m.date.isoformat ++ " " ++ digits 2 (second / 3600) ++ ":" ++ digits 2 (second / 60 % 60) ++ ":" ++
    digits 2 (second % 60) ++ (if fraction = 0 then "" else "." ++ digits 6 fraction) ++ "+00:00"

def dateChars (d : CalendarDate) : List Char :=
  fixedDigits 4 d.year ++ ['-'] ++ fixedDigits 2 d.month ++ ['-'] ++ fixedDigits 2 d.day

@[simp] theorem dateChars_length (d : CalendarDate) : (dateChars d).length = 10 := by
  simp [dateChars]

theorem toList_isoformat {d : CalendarDate} (hyear : d.year ≤ 9999) :
    d.isoformat.toList = dateChars d := by
  have hmonth := d.month_le
  have hday := d.day_le_31
  simp only [CalendarDate.isoformat, dateChars, String.toList_append]
  rw [toList_digits (by decide) (by omega), toList_digits (by decide) (by omega),
    toList_digits (by decide) (by omega)]
  rfl

theorem compares_pred {a b : List Char} {m n : Nat} (h : Compares a b m n) (hm : 1 ≤ m)
    (hn : 1 ≤ n) : Compares a b (m - 1) (n - 1) where
  lt := by rw [h.lt]; omega
  eq := by rw [h.eq]; omega

theorem compares_dateChars {d e : CalendarDate} (hd : d.year ≤ 9999) (he : e.year ≤ 9999) :
    Compares (dateChars d) (dateChars e) d.serial e.serial := by
  have hday := d.day_le_31
  have hday' := e.day_le_31
  have hmonth := d.month_le
  have hmonth' := e.month_le
  have hpos := d.month_pos
  have hpos' := e.month_pos
  have hdpos := d.day_pos
  have hdpos' := e.day_pos
  have hyears := (compares_fixedDigits 4 (m := d.year) (n := e.year) (by omega)
    (by omega)).append_right (by simp) ['-']
  have hmonths := compares_pred (compares_fixedDigits 2 (m := d.month) (n := e.month)
    (by omega) (by omega)) hpos hpos'
  have hdays := compares_pred (compares_fixedDigits 2 (m := d.day) (n := e.day)
    (by omega) (by omega)) hdpos hdpos'
  have htwo := (hyears.append 12 (by simp) hmonths (by omega) (by omega)).append_right
    (by simp) ['-']
  exact htwo.append 31 (by simp) hdays (by omega) (by omega)

/-- Hours, minutes and seconds. -/
def clockChars (second : Nat) : List Char :=
  fixedDigits 2 (second / 3600) ++ [':'] ++ fixedDigits 2 (second / 60 % 60) ++ [':'] ++
    fixedDigits 2 (second % 60)

def fractionChars (fraction : Nat) : List Char :=
  (if fraction = 0 then [] else '.' :: fixedDigits 6 fraction) ++ "+00:00".toList

/-- The text of a moment with a character between the date and the time. -/
def momentChars (separator : Char) (m : Moment) : List Char :=
  dateChars m.date ++ [separator] ++
    (clockChars (m.microsecond / 1000000) ++ fractionChars (m.microsecond % 1000000))

theorem toList_str {m : Moment} (hyear : m.date.year ≤ 9999) : m.str.toList = momentChars ' ' m := by
  have hmicro := m.microsecond_lt
  simp only [Moment.str, momentChars, clockChars, fractionChars, String.toList_append,
    toList_isoformat hyear, apply_ite String.toList]
  rw [toList_digits (by decide) (by omega), toList_digits (by decide) (by omega),
    toList_digits (by decide) (by omega), toList_digits (by decide) (by omega)]
  simp only [List.append_assoc]
  rfl

theorem toList_isoformat_moment {m : Moment} (hyear : m.date.year ≤ 9999) :
    m.isoformat.toList = momentChars 'T' m := by
  have hmicro := m.microsecond_lt
  have hdate := toList_isoformat hyear
  simp only [CalendarDate.isoformat, String.toList_append] at hdate
  simp only [Moment.isoformat, momentChars, clockChars, fractionChars, String.toList_append,
    apply_ite String.toList, hdate]
  rw [toList_digits (by decide) (by omega), toList_digits (by decide) (by omega),
    toList_digits (by decide) (by omega), toList_digits (by decide) (by omega)]
  simp only [List.append_assoc]
  rfl

@[simp] theorem clockChars_length (second : Nat) : (clockChars second).length = 8 := by
  simp [clockChars]

theorem compares_clockChars {m n : Nat} (hm : m < 86400) (hn : n < 86400) :
    Compares (clockChars m) (clockChars n) m n := by
  have hhours := (compares_fixedDigits 2 (m := m / 3600) (n := n / 3600) (by omega)
    (by omega)).append_right (by simp) [':']
  have hminutes := compares_fixedDigits 2 (m := m / 60 % 60) (n := n / 60 % 60)
    (by omega) (by omega)
  have hseconds := compares_fixedDigits 2 (m := m % 60) (n := n % 60) (by omega)
    (by omega)
  have htwo := (hhours.append 60 (by simp) hminutes (by omega) (by omega)).append_right
    (by simp) [':']
  have hall := htwo.append 60 (by simp) hseconds (by omega) (by omega)
  have hm' : (m / 3600 * 60 + m / 60 % 60) * 60 + m % 60 = m := by omega
  have hn' : (n / 3600 * 60 + n / 60 % 60) * 60 + n % 60 = n := by omega
  rw [hm', hn'] at hall
  exact hall

/-- A text without a fraction is before those with one, as `+` is before the point. -/
theorem compares_fractionChars {m n : Nat} (hm : m < 1000000) (hn : n < 1000000) :
    Compares (fractionChars m) (fractionChars n) m n := by
  have hdigits := (compares_fixedDigits 6 hm hn).append_right (by simp) "+00:00".toList
  have hplus : ∀ l : List Char, "+00:00".toList < '.' :: l := fun l =>
    List.cons_lt_cons_iff.2 (.inl (by decide))
  unfold fractionChars
  by_cases hzero : m = 0 <;> by_cases hzero' : n = 0
  · subst hzero hzero'
    exact Compares.refl _ _
  · rw [if_pos hzero, if_neg hzero']
    exact ⟨iff_of_true (hplus _) (by omega), iff_of_false (hplus _).ne (by omega)⟩
  · rw [if_neg hzero, if_pos hzero']
    exact ⟨iff_of_false (hplus _).le.not_gt (by omega), iff_of_false (hplus _).ne' (by omega)⟩
  · rw [if_neg hzero, if_neg hzero']
    exact hdigits.append_left ['.']

/-- First the day decides, then what is between date and time, and then the time. -/
theorem compares_momentChars {c c' : Char} {k k' : Nat} {m n : Moment} (hm : m.date.year ≤ 9999)
    (hn : n.date.year ≤ 9999) (hc : Compares [c] [c'] k k') (hk : k < 2) (hk' : k' < 2) :
    Compares (momentChars c m) (momentChars c' n)
      ((m.date.serial * 2 + k) * 86400000000 + m.microsecond)
      ((n.date.serial * 2 + k') * 86400000000 + n.microsecond) := by
  have hmicro := m.microsecond_lt
  have hmicro' := n.microsecond_lt
  have hdays := (compares_dateChars hm hn).append 2 (by simp) hc hk hk'
  have hclock := compares_clockChars (m := m.microsecond / 1000000) (n := n.microsecond / 1000000)
    (by omega) (by omega)
  have htimes := hclock.append 1000000 (by simp)
    (compares_fractionChars (Nat.mod_lt m.microsecond (by decide))
      (Nat.mod_lt n.microsecond (by decide)))
    (Nat.mod_lt _ (by decide)) (Nat.mod_lt _ (by decide))
  rw [Nat.div_add_mod', Nat.div_add_mod'] at htimes
  exact hdays.append 86400000000 (by simp) htimes hmicro hmicro'

end Cestos.Core
