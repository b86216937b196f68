import AuditedStore.Calendar.Instant
import Mathlib.Tactic.Use

/-!
# Days and dates

Every number of days after the start of 1970 is the number of a date that exists.  The years
of an era of 400 are counted from March; the formula for the year of a day is monotone, so
that it only has to be compared with the first and the last day of each year.
-/

namespace AuditedStore.Date

/-- The days of an era before a year of it. -/
def daysBefore (year : Nat) : Nat := 365 * year + year / 4 - year / 100 + year / 400

/-- The year of an era in which a day of it lies. -/
def yearOfEra (day : Nat) : Nat := (day - day / 1460 + day / 36524 - day / 146096) / 365

theorem yearOfEra_mono {a b : Nat} (hab : a ≤ b) (hb : b < 146097) :
  yearOfEra a ≤ yearOfEra b
  := by
  apply Nat.div_le_div_right
  omega

/-- The formula is right on the first and on the last day of a year. -/
theorem yearOfEra_ends :
  ∀ year < 400, yearOfEra (daysBefore year) = year ∧ yearOfEra (daysBefore (year + 1) - 1) = year
  := by decide +kernel

/-- A day before a year lies in one of the years before that. -/
theorem exists_year {day : Nat} (n : Nat) (h : day < daysBefore n) :
  ∃ year < n, daysBefore year ≤ day ∧ day < daysBefore (year + 1)
  := by
  induction n with
  | zero => cases h
  | succ n ih =>
      by_cases hn : day < daysBefore n
      · obtain ⟨year, hlt, hyear⟩ := ih hn
        use year, Nat.lt_succ_of_lt hlt
      · use n, Nat.lt_succ_self n, Nat.not_lt.mp hn

/-- Every day of an era lies in its year. -/
theorem yearOfEra_spec {day : Nat} (h : day < 146097) :
  yearOfEra day < 400 ∧ daysBefore (yearOfEra day) ≤ day
    ∧ day < daysBefore (yearOfEra day + 1)
  := by
  obtain ⟨year, hlt, hfirst, hlast⟩ := exists_year 400 h
  obtain ⟨hlower, hupper⟩ := yearOfEra_ends year hlt
  have hbound : daysBefore (year + 1) - 1 < 146097 := by
    rw [daysBefore]
    omega
  have hyear : yearOfEra day = year := by
    apply Nat.le_antisymm
    · rw [← hupper]
      apply yearOfEra_mono _ hbound
      omega
    · rw [← hlower]
      apply yearOfEra_mono hfirst h
  rw [hyear]
  exact ⟨hlt, hfirst, hlast⟩

/-- The days of a year, which is a leap year if the calendar year of its last month is. -/
theorem daysBefore_succ {year : Nat} (h : year < 400) (era : Int) :
  daysBefore (year + 1) = daysBefore year + 365
    + (if isLeapYear (era * 400 + year + 1) then 1 else 0)
  := by
  simp only [daysBefore, isLeapYear, Bool.and_eq_true, Bool.or_eq_true, decide_eq_true_eq, bne_iff_ne]
  split
  · omega
  · omega

/-! ### Months -/

/-- The month of a year from March in which a day of it lies, counted from zero. -/
def monthFromMarch (rest : Nat) : Nat := (5 * rest + 2) / 153

/-- The month of a calendar year. -/
def calendarMonth (m : Nat) : Nat := if m < 10 then m + 3 else m - 9

/-- The day of a month from March in which a day of a year lies. -/
def dayOfMonth (rest : Nat) : Nat := rest - (153 * monthFromMarch rest + 2) / 5 + 1

/-- The days of a month depend on the year only through whether it is a leap year. -/
theorem daysInMonth_congr {year other : Int} (h : isLeapYear year = isLeapYear other)
    (month : Nat) :
  daysInMonth year month = daysInMonth other month
  := by rw [daysInMonth.eq_def, daysInMonth.eq_def, h]

theorem daysInMonth_of_ne_two {month : Nat} (h : month ≠ 2) (year other : Int) :
  daysInMonth year month = daysInMonth other month
  := by
  rw [daysInMonth.eq_def, daysInMonth.eq_def]
  split
  · contradiction
  · rfl
  · rfl
  · rfl
  · rfl
  · rfl

theorem daysInMonth_le (year : Int) (month : Nat) :
  daysInMonth year month ≤ 31
  := by
  rw [daysInMonth.eq_def]
  split
  · split
    · decide
    · decide
  · decide
  · decide
  · decide
  · decide
  · decide

/-- The month and the day of a date that exists. -/
theorem bounds_of_isValid {d : Date} (h : d.isValid = true) :
  1 ≤ d.month ∧ d.month ≤ 12 ∧ 1 ≤ d.day ∧ d.day ≤ 31
  := by
  simp only [isValid, Bool.and_eq_true, decide_eq_true_eq] at h
  obtain ⟨⟨⟨hfirst, hlast⟩, hbegin⟩, hend⟩ := h
  exact ⟨hfirst, hlast, hbegin, Nat.le_trans hend (daysInMonth_le d.year d.month)⟩

/-- Every day of a year lies in a month with at least as many days; the last day of a leap
year counts only in one. -/
theorem calendarMonth_spec :
  ∀ rest < 366,
    1 ≤ calendarMonth (monthFromMarch rest) ∧ calendarMonth (monthFromMarch rest) ≤ 12
    ∧ dayOfYear (calendarMonth (monthFromMarch rest)) (dayOfMonth rest) = rest
    ∧ dayOfMonth rest ≤ daysInMonth 4 (calendarMonth (monthFromMarch rest))
    ∧ (rest < 365 → dayOfMonth rest ≤ daysInMonth 1 (calendarMonth (monthFromMarch rest)))
  := by decide +kernel

/-! ### Dates of days -/

/-- The day of its era on which a day lies. -/
def dayOfEra (days : Int) : Nat := ((days + 719468) % 146097).toNat

/-- The day of its year from March on which a day lies. -/
def restOfYear (days : Int) : Nat := dayOfEra days - daysBefore (yearOfEra (dayOfEra days))

theorem dayOfEra_lt (days : Int) :
  dayOfEra days < 146097
  := by
  rw [dayOfEra]
  omega

/-- The parts of the date of a day. -/
theorem ofDays_eq (days : Int) :
  ofDays days =
    { year := (days + 719468) / 146097 * 400 + yearOfEra (dayOfEra days)
        + (if calendarMonth (monthFromMarch (restOfYear days)) ≤ 2 then 1 else 0)
      month := calendarMonth (monthFromMarch (restOfYear days))
      day := dayOfMonth (restOfYear days) }
  := by
  have hyear := (yearOfEra_spec (dayOfEra_lt days)).1
  have hbefore : daysBefore (yearOfEra (dayOfEra days))
      = 365 * yearOfEra (dayOfEra days) + yearOfEra (dayOfEra days) / 4
        - yearOfEra (dayOfEra days) / 100 := by
    rw [daysBefore, Nat.div_eq_of_lt hyear, Nat.add_zero]
  rw [restOfYear, hbefore]
  rfl

/-- A year has at most 366 days, and only a leap year that many. -/
theorem restOfYear_spec (days : Int) :
  restOfYear days < 366
    ∧ (restOfYear days = 365 →
        isLeapYear ((days + 719468) / 146097 * 400 + yearOfEra (dayOfEra days) + 1) = true)
  := by
  obtain ⟨hyear, hfirst, hlast⟩ := yearOfEra_spec (dayOfEra_lt days)
  rw [daysBefore_succ hyear ((days + 719468) / 146097)] at hlast
  rw [restOfYear]
  split at hlast
  · next hleap =>
      constructor
      · omega
      · exact fun _ => hleap
  · constructor
    · omega
    · omega

/-- The date of a day exists. -/
theorem isValid_ofDays (days : Int) :
  (ofDays days).isValid = true
  := by
  obtain ⟨hrest, hleap⟩ := restOfYear_spec days
  obtain ⟨hfirst, hlast, -, hday, hday'⟩ := calendarMonth_spec (restOfYear days) hrest
  have hbegin : 1 ≤ dayOfMonth (restOfYear days) := Nat.le_add_left 1 _
  have hend : dayOfMonth (restOfYear days) ≤ daysInMonth (ofDays days).year (ofDays days).month := by
    rw [ofDays_eq]
    by_cases hmonth : calendarMonth (monthFromMarch (restOfYear days)) = 2
    · simp only [hmonth, Nat.le_refl, if_true] at hday hday' ⊢
      cases hyear : isLeapYear ((days + 719468) / 146097 * 400 + yearOfEra (dayOfEra days) + 1) with
      | true =>
          rw [daysInMonth_congr (hyear.trans (by decide : true = isLeapYear 4))]
          apply hday
      | false =>
          rw [daysInMonth_congr (hyear.trans (by decide : false = isLeapYear 1))]
          apply hday'
          have hne : restOfYear days ≠ 365 := by
            intro heq
            rw [hleap heq] at hyear
            cases hyear
          omega
    · rw [daysInMonth_of_ne_two hmonth _ 4]
      apply hday
  rw [ofDays_eq] at hend ⊢
  simp only [isValid, hfirst, hlast, hbegin, hend, decide_true, Bool.and_true]

/-- A count of years that is spread over eras of 400. -/
theorem leapDays_eq {year : Nat} (h : year < 400) (era : Int) :
  (era * 400 + year) / 4 - (era * 400 + year) / 100 + (era * 400 + year) / 400
    = era * 97 + year / 4 - year / 100
  := by
  omega

/-- Counting the days to the date of a day gives the day. -/
theorem toDays_ofDays (days : Int) :
  toDays (ofDays days) = days
  := by
  obtain ⟨hrest, -⟩ := restOfYear_spec days
  obtain ⟨-, -, hrestOf, -⟩ := calendarMonth_spec (restOfYear days) hrest
  obtain ⟨hyear, hfirst, -⟩ := yearOfEra_spec (dayOfEra_lt days)
  have hpast : restOfYear days + daysBefore (yearOfEra (dayOfEra days)) = dayOfEra days :=
    Nat.sub_add_cancel hfirst
  have hdays : (dayOfEra days : Int) = (days + 719468) % 146097 := by
    rw [dayOfEra]
    omega
  have hleap := leapDays_eq hyear ((days + 719468) / 146097)
  have hmarch : ∀ c : Prop, [Decidable c] → ∀ y : Int,
      (if c then y + (if c then 1 else 0) - 1 else y + (if c then 1 else 0)) = y := by
    intro c _ y
    split
    · omega
    · omega
  rw [daysBefore] at hpast
  rw [ofDays_eq, toDays]
  simp only [hrestOf, hmarch]
  omega

end AuditedStore.Date
