/-
Identity/Proofs/Time/Calendar.lean

A day is found again from its date, and its date exists.

A day of an era is a century, a leap cycle, a year and a day of the year
(`exists_eraDay`).  In these terms the year that `yearOfEra` divides out can be
computed (`yearOfEra_day`), and the leap day is the last day of a year that is
the last of its cycle, unless the cycle is the last of a century that is not
itself the last of the era.

Years are in order: the days up to the end of a year are the days before the first
of the next January (`year_ofDays_le_iff`).
-/
import Identity.Time.Calendar
import Mathlib.Tactic.Common
import Mathlib.Tactic.IntervalCases

namespace Identity.Calendar

/-! ### Days of an era -/

/-- A day of an era, taken apart into centuries, cycles of four years, years
and days, all counted from 0. -/
structure EraDay where
  century : Nat
  cycle : Nat
  year : Nat
  day : Nat
  century_le : century ≤ 3
  cycle_le : cycle ≤ 24
  year_le : year ≤ 3
  day_le : day ≤ 365
  leap : day = 365 → year = 3 ∧ (cycle < 24 ∨ century = 3)

namespace EraDay

/-- The position of the day in the era. -/
def position (e : EraDay) : Nat := 36524 * e.century + 1461 * e.cycle + 365 * e.year + e.day

/-- The year of the era. -/
def eraYear (e : EraDay) : Nat := 100 * e.century + 4 * e.cycle + e.year

theorem startOfYear_eraYear (e : EraDay) :
    startOfYear e.eraYear = 36524 * e.century + 1461 * e.cycle + 365 * e.year := by
  have hcycle := e.cycle_le
  have hyear := e.year_le
  have hquarter : e.eraYear / 4 = 25 * e.century + e.cycle := by unfold eraYear; omega
  have hhundred : e.eraYear / 100 = e.century := by unfold eraYear; omega
  rw [startOfYear, hquarter, hhundred, eraYear]
  omega

theorem position_eq (e : EraDay) : e.position = startOfYear e.eraYear + e.day := by
  rw [startOfYear_eraYear, position]

/-- Division by the days of a century overshoots on the last day of an era only. -/
theorem position_div_century (e : EraDay) :
    e.position / 36524 = e.century + e.position / 146096 := by
  obtain ⟨century, cycle, year, day, hcentury, hcycle, hyear, hday, hleap⟩ := e
  simp only [position]
  generalize hd : 36524 * century + 1461 * cycle + 365 * year + day = d
  by_cases hlast : d = 146096
  · obtain rfl : century = 3 := by omega
    rw [hlast]
  · have hera : d / 146096 = 0 := Nat.div_eq_of_lt (by omega)
    omega

/-- Division by four short years overshoots late in a cycle. -/
theorem position_div_cycle (e : EraDay) :
    e.position / 1460 = 25 * e.century + e.cycle ∧ e.day ≤ 364 ∨
      e.position / 1460 = 25 * e.century + e.cycle + 1 ∧ 1 ≤ e.day := by
  obtain ⟨century, cycle, year, day, hcentury, hcycle, hyear, hday, hleap⟩ := e
  simp only [position]
  omega

/-- The divisions of `yearOfEra` find the year. -/
theorem yearOfEra_position (e : EraDay) : yearOfEra e.position = e.eraYear := by
  have hcycles := e.position_div_cycle
  rw [yearOfEra, e.position_div_century]
  generalize e.position / 1460 = cycles at hcycles ⊢
  have hday := e.day_le
  simp only [position, eraYear]
  omega

/-- Every day of an era can be taken apart. -/
theorem exists_position {d : Nat} (h : d < daysPerEra) : ∃ e : EraDay, e.position = d := by
  unfold daysPerEra at h
  -- the last century and the last year of a cycle are one day longer than the others
  let century := min (d / 36524) 3
  let cycle := (d - 36524 * century) / 1461
  let year := min ((d - 36524 * century - 1461 * cycle) / 365) 3
  let day := d - 36524 * century - 1461 * cycle - 365 * year
  refine ⟨⟨century, cycle, year, day, ?_, ?_, ?_, ?_, ?_⟩, ?_⟩
  all_goals try simp only [position]
  all_goals omega

/-! ### Dates of days -/

/-- The date of a day of an era. -/
def date (e : EraDay) (era : Int) : Date :=
  let month := monthOfYear e.day
  { year := era * 400 + e.eraYear + (if month < 10 then 0 else 1)
    month := if month < 10 then month + 3 else month - 9
    day := e.day - startOfMonth month + 1 }

theorem monthOfYear_le (e : EraDay) : monthOfYear e.day ≤ 11 := by
  have hday := e.day_le
  unfold monthOfYear
  omega

theorem startOfMonth_le (e : EraDay) : startOfMonth (monthOfYear e.day) ≤ e.day := by
  unfold startOfMonth monthOfYear
  omega

theorem lt_startOfMonth_succ (e : EraDay) : e.day < startOfMonth (monthOfYear e.day + 1) := by
  unfold startOfMonth monthOfYear
  omega

theorem eraYear_lt (e : EraDay) : e.eraYear < 400 := by
  have hcentury := e.century_le
  have hcycle := e.cycle_le
  have hyear := e.year_le
  unfold eraYear
  omega

/-- A year with a day 365 ends in a leap year. -/
theorem isLeapYear_succ (e : EraDay) (era : Int) (h : e.day = 365) :
    isLeapYear (era * 400 + e.eraYear + 1) = true := by
  obtain ⟨hyear, hcentury⟩ := e.leap h
  have hcycle := e.cycle_le
  have hyears : (e.eraYear : Int) = 100 * e.century + 4 * e.cycle + e.year := by
    unfold eraYear
    omega
  simp only [isLeapYear, Bool.and_eq_true, Bool.or_eq_true, decide_eq_true_eq, ne_eq]
  omega

/-- From March to December the year is the one that begins in March. -/
theorem date_of_lt (e : EraDay) (era : Int) (h : monthOfYear e.day < 10) :
    e.date era = ⟨era * 400 + e.eraYear, monthOfYear e.day + 3,
      e.day - startOfMonth (monthOfYear e.day) + 1⟩ := by
  simp [date, h]

/-- January and February belong to the next year. -/
theorem date_of_ge (e : EraDay) (era : Int) (h : ¬monthOfYear e.day < 10) :
    e.date era = ⟨era * 400 + e.eraYear + 1, monthOfYear e.day - 9,
      e.day - startOfMonth (monthOfYear e.day) + 1⟩ := by
  simp [date, h]

theorem toDays_date (e : EraDay) (era : Int) :
    toDays (e.date era) = era * daysPerEra + e.position - epochOffset := by
  have hmonth := e.monthOfYear_le
  have hday := e.startOfMonth_le
  have hyear := e.eraYear_lt
  have hera : (era * 400 + e.eraYear : Int) / 400 = era := by omega
  have hrest : ((era * 400 + e.eraYear : Int) % 400).toNat = e.eraYear := by omega
  rw [position_eq]
  by_cases hspring : monthOfYear e.day < 10
  · have hearly : ¬monthOfYear e.day + 3 ≤ 2 := by omega
    rw [date_of_lt e era hspring]
    simp only [toDays, if_neg hearly, hera, hrest, Nat.add_sub_cancel]
    omega
  · have hlate : monthOfYear e.day - 9 ≤ 2 := by omega
    have hback : monthOfYear e.day - 9 + 9 = monthOfYear e.day := by omega
    rw [date_of_ge e era hspring]
    simp only [toDays, if_pos hlate, hback, Int.add_sub_cancel, hera, hrest, Nat.add_sub_cancel]
    omega

/-- The months from March to December. -/
theorem daysInMonth_of_lt (year : Int) {month : Nat} (h : month < 10) :
    startOfMonth (month + 1) - startOfMonth month = daysInMonth year (month + 3) := by
  interval_cases month <;> rfl

/-- No day of a year lies behind the end of its month. -/
theorem day_le_daysInMonth (e : EraDay) (era : Int) :
    (e.date era).day ≤ daysInMonth (e.date era).year (e.date era).month := by
  have hmonth := e.monthOfYear_le
  have hend := e.lt_startOfMonth_succ
  by_cases hspring : monthOfYear e.day < 10
  · have hlength := daysInMonth_of_lt (era * 400 + e.eraYear) hspring
    have hstart := e.startOfMonth_le
    rw [date_of_lt e era hspring]
    dsimp only
    omega
  · rw [date_of_ge e era hspring]
    generalize hyear : era * 400 + e.eraYear + 1 = year
    obtain hjanuary | hfebruary : monthOfYear e.day = 10 ∨ monthOfYear e.day = 11 := by omega
    · have hlength : daysInMonth year (10 - 9) = 31 := rfl
      have hstart : startOfMonth 10 = 306 := rfl
      have hnext : startOfMonth (10 + 1) = 337 := rfl
      rw [hjanuary] at hend ⊢
      dsimp only
      omega
    · have hlength : daysInMonth year (11 - 9) = if isLeapYear year then 29 else 28 := rfl
      have hstart : startOfMonth 11 = 337 := rfl
      have hday := e.day_le
      have hleap : e.day = 365 → isLeapYear year = true := fun h => hyear ▸ e.isLeapYear_succ era h
      rw [hfebruary, hlength, hstart]
      dsimp only
      split
      · omega
      · have hshort : e.day ≠ 365 := fun h => absurd (hleap h) ‹_›
        omega

theorem exists_date (e : EraDay) (era : Int) : (e.date era).exists = true := by
  have hmonth := e.monthOfYear_le
  have hday : 1 ≤ (e.date era).day := by simp [date]
  have hbounds : 1 ≤ (e.date era).month ∧ (e.date era).month ≤ 12 := by
    simp only [date]
    split <;> omega
  simp only [Date.exists, Bool.and_eq_true, decide_eq_true_eq]
  exact ⟨⟨hbounds, hday⟩, e.day_le_daysInMonth era⟩

/-- Every date of the calendar is the date of a day of an era. -/
theorem ofDays_eq (days : Int) : ∃ (e : EraDay) (era : Int),
    ofDays days = e.date era ∧ days = era * daysPerEra + e.position - epochOffset := by
  have hera := Int.emod_nonneg (days + epochOffset) (b := daysPerEra) (by decide)
  have hlt := Int.emod_lt_of_pos (days + epochOffset) (b := daysPerEra) (by decide)
  obtain ⟨e, he⟩ := exists_position (d := ((days + epochOffset) % daysPerEra).toNat) (by omega)
  refine ⟨e, (days + epochOffset) / daysPerEra, ?_, ?_⟩
  · have hday : e.position - startOfYear e.eraYear = e.day := by
      rw [position_eq, Nat.add_sub_cancel_left]
    simp only [ofDays, ← he, yearOfEra_position, hday, date]
  · rw [he, Int.toNat_of_nonneg hera]
    have := Int.mul_ediv_add_emod (days + epochOffset) daysPerEra
    rw [Int.mul_comm] at this
    omega

end EraDay

/-! ### Days and dates -/

/-- A day is found again from its date. -/
theorem toDays_ofDays (days : Int) : toDays (ofDays days) = days := by
  obtain ⟨e, era, hdate, hdays⟩ := EraDay.ofDays_eq days
  rw [hdate, e.toDays_date, hdays]

/-- The date of a day exists. -/
theorem exists_ofDays (days : Int) : (ofDays days).exists = true := by
  obtain ⟨e, era, hdate, -⟩ := EraDay.ofDays_eq days
  rw [hdate]
  exact e.exists_date era

/-! ### Years -/

/-- A later year starts at least 365 days later. -/
theorem startOfYear_add_le {year later : Nat} (h : year < later) :
    startOfYear year + 365 ≤ startOfYear later := by
  have hquarter : year / 4 ≤ later / 4 := Nat.div_le_div_right h.le
  -- a hundredth grows no faster than the quarter that it is taken of
  have hcentury : ∀ n, n / 100 = n / 4 / 25 := fun n => (Nat.div_div_eq_div_mul n 4 25).symm
  rw [startOfYear, startOfYear, hcentury, hcentury]
  omega

/-- The last year of an era ends with the era. -/
theorem startOfYear_lt {year : Nat} (h : year < 400) : startOfYear year + 365 < daysPerEra := by
  unfold startOfYear daysPerEra
  omega

/-- A first of January lies 306 days into the year that began in March. -/
theorem toDays_newYear (era : Int) {year : Nat} (h : year < 400) :
    toDays ⟨era * 400 + year + 1, 1, 1⟩ =
      era * daysPerEra + (startOfYear year + 306) - epochOffset := by
  have hera : (era * 400 + year : Int) / 400 = era := by omega
  have hrest : ((era * 400 + year : Int) % 400).toNat = year := by omega
  have hback : era * 400 + year + 1 - 1 = (era * 400 + year : Int) := Int.add_sub_cancel ..
  simp only [toDays, if_pos (show 1 ≤ 2 by decide), hback, hera, hrest]
  rfl

namespace EraDay

/-- January and February are what is left of a year after 306 days. -/
theorem year_date (e : EraDay) (era : Int) :
    (e.date era).year = era * 400 + e.eraYear + (if e.day < 306 then 0 else 1) := by
  have hmonth : monthOfYear e.day < 10 ↔ e.day < 306 := by
    unfold monthOfYear
    omega
  simp only [date, hmonth]

end EraDay

/-- The days of a year and of those before it are the days before the next one. -/
theorem year_ofDays_le_iff (days year : Int) :
    (ofDays days).year ≤ year ↔ days < toDays ⟨year + 1, 1, 1⟩ := by
  obtain ⟨e, era, hdate, hdays⟩ := EraDay.ofDays_eq days
  obtain ⟨last, rest, hrest, rfl⟩ : ∃ (last : Int) (rest : Nat),
      rest < 400 ∧ year = last * 400 + rest :=
    ⟨year / 400, (year % 400).toNat, by omega, by omega⟩
  rw [hdate, hdays, toDays_newYear last hrest, e.position_eq, e.year_date]
  have hday := e.day_le
  have hyear := e.eraYear_lt
  have hend := startOfYear_lt hyear
  have hend' := startOfYear_lt hrest
  generalize e.eraYear = y at *
  unfold daysPerEra epochOffset at *
  -- an earlier or a later era decides alone, and within the era the year does
  rcases Int.lt_trichotomy era last with hbefore | rfl | hafter
  · refine iff_of_true ?_ ?_
    · split <;> omega
    · omega
  · rcases Nat.lt_trichotomy y rest with hbefore | rfl | hafter
    · have hyears := startOfYear_add_le hbefore
      split <;> omega
    · split <;> omega
    · have hyears := startOfYear_add_le hafter
      split <;> omega
  · refine iff_of_false ?_ ?_
    · split <;> omega
    · omega

end Identity.Calendar
