import Mathlib.Tactic.IntervalCases
import TriggerFlow.Calendar.Reading

/-! # Counting the days of the calendar

A month has its length by the rule of the leap years (`monthLength`), and the number of a date counts
the days of the years and the months before it (`Date.number`).  `dayOfDate` is this count in closed
form (`Date.dayOfDate_eq`), and `daysOfMonth` the length of a month (`Date.daysOfMonth_eq`).  The other
way round a day has a place in the cycles of four hundred, a hundred and four years (`Place`), from
which `dateOfDay` finds its date (`Place.dateOfDay_number`).  So the dates of the years 1 to 9999 and
the numbers of their days correspond: each day has a date (`Date.exists_sound`), only one
(`Date.Sound.eq_of_number`), and `dateOfDay` finds it (`Date.Sound.dateOfDay`). -/

namespace TriggerFlow

namespace Calendar

/-! ### Lengths by the rule -/

/-- Every fourth year is a leap year, but of the hundredth years only every fourth. -/
def IsLeap (year : Int) : Prop := year % 4 = 0 ∧ (year % 100 = 0 → year % 400 = 0)

instance (year : Int) : Decidable (IsLeap year) :=
  inferInstanceAs (Decidable (year % 4 = 0 ∧ (year % 100 = 0 → year % 400 = 0)))

theorem isLeap_iff {year : Int} :
    IsLeap year ↔ year % 4 = 0 ∧ (year % 100 = 0 → year % 400 = 0) := Iff.rfl

/-- How many days a month of a year has. -/
def monthLength (year month : Int) : Int :=
  if month = 2 then if IsLeap year then 29 else 28
  else if month = 4 ∨ month = 6 ∨ month = 9 ∨ month = 11 then 30
  else 31

/-- How many days the first so many months of a year have. -/
def daysOfMonths (year : Int) : Nat → Int
  | 0 => 0
  | n + 1 => daysOfMonths year n + monthLength year (n + 1)

/-- How many days the first so many years have. -/
def daysOfYears : Nat → Int
  | 0 => 0
  | n + 1 => daysOfYears n + daysOfMonths (n + 1) 12

theorem monthLength_ge (year month : Int) : 28 ≤ monthLength year month := by
  unfold monthLength
  split
  · split <;> omega
  · split <;> omega

theorem monthLength_le (year month : Int) : monthLength year month ≤ 31 := by
  unfold monthLength
  split
  · split <;> omega
  · split <;> omega

theorem daysOfMonths_le (year : Int) {m n : Nat} (h : m ≤ n) :
    daysOfMonths year m ≤ daysOfMonths year n := by
  induction h with
  | refl => exact Int.le_refl _
  | @step n _ ih =>
      have := monthLength_ge year (n + 1)
      rw [daysOfMonths]
      omega

theorem daysOfYears_le {m n : Nat} (h : m ≤ n) : daysOfYears m ≤ daysOfYears n := by
  induction h with
  | refl => exact Int.le_refl _
  | @step n _ ih =>
      have year : daysOfMonths (n + 1) 0 ≤ daysOfMonths (n + 1) 12 := daysOfMonths_le _ (Nat.zero_le 12)
      rw [daysOfMonths] at year
      rw [daysOfYears]
      omega

/-! ### Closed forms -/

/-- From March on the lengths repeat every five months, which have 153 days. -/
theorem daysOfMonths_eq (year : Int) {n : Nat} (h : n ≤ 12) :
    daysOfMonths year n =
      if n < 2 then 31 * (n : Int)
      else (153 * (n - 2 : Int) + 2) / 5 + 59 + if IsLeap year then 1 else 0 := by
  by_cases leap : IsLeap year <;> interval_cases n <;> simp [daysOfMonths, monthLength, leap]

theorem daysOfMonths_twelve (year : Int) :
    daysOfMonths year 12 = 365 + if IsLeap year then 1 else 0 := by
  rw [daysOfMonths_eq year le_rfl]
  rfl

theorem daysOfYears_eq (n : Nat) :
    daysOfYears n = 365 * n + n / 4 - n / 100 + n / 400 := by
  induction n with
  | zero => rfl
  | succ n ih =>
      rw [daysOfYears, ih, daysOfMonths_twelve, Nat.cast_succ]
      -- a quotient grows by one in just the years that it divides
      by_cases leap : IsLeap (n + 1)
      · rw [if_pos leap]
        rw [isLeap_iff] at leap
        omega
      · rw [if_neg leap]
        rw [isLeap_iff] at leap
        omega

/-! ### Cycles of years -/

/-- The place of a day in the cycles of four hundred, a hundred and four years.  Years are taken to
begin with March, so that a leap day is the last day of its cycle; only the last century of an era and
the last year of a cycle are a day longer. -/
structure Place where
  era : Int
  century : Int
  cycle : Int
  year : Int
  day : Int
  century_range : 0 ≤ century ∧ century ≤ 3
  cycle_range : 0 ≤ cycle ∧ cycle ≤ 24
  year_range : 0 ≤ year ∧ year ≤ 3
  day_range : 0 ≤ day ∧ day ≤ 365
  leap_day : day = 365 → year = 3 ∧ (cycle = 24 → century = 3)

namespace Place

/-- The number of the day. -/
def number (p : Place) : Int :=
  146097 * p.era + 36524 * p.century + 1461 * p.cycle + 365 * p.year + p.day

/-- The year that the day lies in, from March on. -/
def fullYear (p : Place) : Int := 400 * p.era + 100 * p.century + 4 * p.cycle + p.year

/-- A length holds a unit some times, at most `most` times, and the rest is below the unit or all that
is left. -/
theorem exists_times (unit most : Int) {length : Int} (hu : 0 < unit) (hm : 0 ≤ most)
    (hl : 0 ≤ length) :
    ∃ times rest, length = unit * times + rest ∧ (0 ≤ times ∧ times ≤ most) ∧ 0 ≤ rest ∧
      (rest < unit ∨ times = most) := by
  have whole := Int.mul_ediv_add_emod length unit
  have rest := Int.emod_nonneg length hu.ne'
  have below := Int.emod_lt_of_pos length hu
  have times : 0 ≤ length / unit := Int.ediv_nonneg hl hu.le
  rcases le_or_gt (length / unit) most with h | h
  · exact ⟨length / unit, length % unit, whole.symm, ⟨times, h⟩, rest, .inl below⟩
  · refine ⟨most, length - unit * most, by omega, ⟨hm, le_rfl⟩, ?_, .inr rfl⟩
    have := mul_le_mul_of_nonneg_left h.le hu.le
    omega

theorem exists_number (n : Int) : ∃ p : Place, p.number = n := by
  obtain ⟨century, c, hn, century_range, hc, lastCentury⟩ :=
    exists_times 36524 3 (by decide) (by decide) (Int.emod_nonneg n (by decide : (146097 : Int) ≠ 0))
  obtain ⟨cycle, y, rfl, cycle_range, hy, lastCycle⟩ :=
    exists_times 1461 24 (by decide) (by decide) hc
  obtain ⟨year, day, rfl, year_range, hd, lastYear⟩ :=
    exists_times 365 3 (by decide) (by decide) hy
  -- the day that is left over after the last year is the leap day
  refine ⟨⟨n / 146097, century, cycle, year, day, century_range, cycle_range, year_range, ?_, ?_⟩, ?_⟩
  · omega
  · omega
  · simp only [number]
    omega

theorem number_era (p : Place) :
    p.number / 146097 = p.era ∧
      p.number % 146097 = 36524 * p.century + 1461 * p.cycle + 365 * p.year + p.day := by
  obtain ⟨era, century, cycle, year, day, hc, hk, hy, hd, leap⟩ := p
  simp only [number]
  omega

/-- The year within the era, as `dateOfDay` finds it. -/
theorem year_of_era (p : Place) :
    (p.number % 146097 - p.number % 146097 / 1460 + p.number % 146097 / 36524 -
        p.number % 146097 / 146096) / 365 = 100 * p.century + 4 * p.cycle + p.year := by
  rw [p.number_era.2]
  obtain ⟨era, century, cycle, year, day, hc, hk, hy, hd, leap⟩ := p
  simp only
  generalize hn : 36524 * century + 1461 * cycle + 365 * year + day = n
  -- only the last day of an era has the quotients of the next century
  have centuries : n / 36524 = century + n / 146096 := by
    have from_start : 36524 * century ≤ n := by omega
    rcases (by omega : n < 36524 * (century + 1) ∨ n = 146096) with h | rfl
    · rw [(by omega : n / 36524 = century), (by omega : n / 146096 = 0), add_zero]
    · omega
  obtain ⟨carry, cycles, h0, h1⟩ :
      ∃ carry, n / 1460 = 25 * century + cycle + carry ∧ 0 ≤ carry ∧ carry ≤ 1 :=
    ⟨n / 1460 - 25 * century - cycle, by omega, by omega, by omega⟩
  rw [centuries, cycles]
  omega

/-- How many months since March are over. -/
def month (p : Place) : Int := (5 * p.day + 2) / 153

/-- The date of the day. -/
def date (p : Place) : Timestamp.Date where
  year := p.fullYear + if p.month < 10 then 0 else 1
  month := if p.month < 10 then p.month + 3 else p.month - 9
  day := p.day - (153 * p.month + 2) / 5 + 1

theorem month_range (p : Place) : 0 ≤ p.month ∧ p.month ≤ 11 := by
  have := p.day_range
  rw [month]
  omega

theorem dateOfDay_number (p : Place) :
    dateOfDay p.number = (p.date.year, p.date.month, p.date.day) := by
  have rest : p.number % 146097 - (365 * (100 * p.century + 4 * p.cycle + p.year) +
      (100 * p.century + 4 * p.cycle + p.year) / 4 -
        (100 * p.century + 4 * p.cycle + p.year) / 100) = p.day := by
    rw [p.number_era.2]
    obtain ⟨era, century, cycle, year, day, hc, hk, hy, hd, leap⟩ := p
    dsimp only
    omega
  have months := p.month_range
  unfold dateOfDay
  simp only [p.year_of_era, p.number_era.1, rest]
  rw [← month, date, fullYear]
  simp only [Prod.mk.injEq, and_true]
  split <;> split <;> omega

theorem dayOfDate_date (p : Place) :
    dayOfDate p.date.year p.date.month p.date.day = p.number := by
  have months := p.month_range
  have := p.century_range
  have := p.cycle_range
  have := p.year_range
  simp only [dayOfDate, date, number]
  split_ifs <;> rw [fullYear] <;> omega

/-- The length of a month, counted from March. -/
theorem monthLength_of_march (year : Int) {m : Int} (h : 0 ≤ m ∧ m ≤ 11) :
    monthLength (year + if m < 10 then 0 else 1) (if m < 10 then m + 3 else m - 9) =
      if m = 11 then if IsLeap (year + 1) then 29 else 28
      else (153 * (m + 1) + 2) / 5 - (153 * m + 2) / 5 := by
  obtain ⟨h0, h11⟩ := h
  interval_cases m <;> simp [monthLength]

/-- A year that ends with a leap day ends in a leap year. -/
theorem isLeap_of_day (p : Place) (h : p.day = 365) : IsLeap (p.fullYear + 1) := by
  have := p.leap_day h
  have := p.century_range
  have := p.cycle_range
  rw [fullYear]
  exact ⟨by omega, by omega⟩

theorem date_sound (p : Place) :
    (1 ≤ p.date.month ∧ p.date.month ≤ 12) ∧
      1 ≤ p.date.day ∧ p.date.day ≤ monthLength p.date.year p.date.month := by
  have months := p.month_range
  have start : (153 * p.month + 2) / 5 ≤ p.day ∧ p.day < (153 * (p.month + 1) + 2) / 5 := by
    rw [month]
    omega
  have day : p.date.day = p.day - (153 * p.month + 2) / 5 + 1 := rfl
  refine ⟨?_, by omega, ?_⟩
  · rw [date]
    dsimp only
    split <;> omega
  · -- only February, the last month of a year from March on, depends on the year
    rw [day]
    refine le_of_le_of_eq ?_ (monthLength_of_march p.fullYear months).symm
    have := p.day_range
    split
    · split
      · omega
      · have : p.day ≠ 365 := fun last => ‹¬ IsLeap _› (p.isLeap_of_day last)
        omega
    · omega

end Place

end Calendar

namespace Timestamp.Date

open Calendar

/-! ### Dates and their numbers -/

/-- A date of the years 1 to 9999. -/
structure Sound (d : Date) : Prop where
  year : 1 ≤ d.year ∧ d.year ≤ 9999
  month : 1 ≤ d.month ∧ d.month ≤ 12
  day : 1 ≤ d.day ∧ d.day ≤ monthLength d.year d.month

/-- How many days there are before a date, from the first day of year 1 on. -/
def number (d : Date) : Int :=
  daysOfYears (d.year - 1).toNat + daysOfMonths d.year (d.month - 1).toNat + (d.day - 1)

variable {d e : Date}

theorem dayOfDate_eq (hy : 1 ≤ d.year) (hm : 1 ≤ d.month ∧ d.month ≤ 12) :
    dayOfDate d.year d.month d.day = firstDay + d.number := by
  have origin : firstDay = 306 := rfl
  have months := daysOfMonths_eq d.year (n := (d.month - 1).toNat) (by omega)
  rw [origin, number, daysOfYears_eq, months, dayOfDate]
  by_cases leap : IsLeap d.year
  · rw [if_pos leap]
    rw [isLeap_iff] at leap
    split_ifs <;> omega
  · rw [if_neg leap]
    rw [isLeap_iff] at leap
    split_ifs <;> omega

theorem daysOfMonths_toNat {month : Int} (year : Int) (h : 1 ≤ month) :
    daysOfMonths year month.toNat =
      daysOfMonths year (month - 1).toNat + monthLength year month := by
  obtain ⟨n, rfl⟩ : ∃ n : Nat, month = n + 1 := ⟨(month - 1).toNat, by omega⟩
  rw [Int.add_sub_cancel, Int.toNat_natCast, ← Nat.cast_succ, Int.toNat_natCast, daysOfMonths]
  rfl

theorem daysOfYears_toNat {year : Int} (h : 1 ≤ year) :
    daysOfYears year.toNat = daysOfYears (year - 1).toNat + daysOfMonths year 12 := by
  obtain ⟨n, rfl⟩ : ∃ n : Nat, year = n + 1 := ⟨(year - 1).toNat, by omega⟩
  rw [Int.add_sub_cancel, Int.toNat_natCast, ← Nat.cast_succ, Int.toNat_natCast, daysOfYears]
  rfl

/-- The length of a month is what `daysOfMonth` finds. -/
theorem daysOfMonth_eq {year month : Int} (hy : 1 ≤ year) (hm : 1 ≤ month ∧ month ≤ 12) :
    daysOfMonth year month = monthLength year month := by
  unfold daysOfMonth
  split
  · rename_i december
    rw [beq_iff_eq.mp december]
    rfl
  · rename_i earlier
    have ne : month ≠ 12 := fun h => earlier (beq_iff_eq.mpr h)
    have first := dayOfDate_eq (d := ⟨year, month, 1⟩) hy hm
    have next := dayOfDate_eq (d := ⟨year, month + 1, 1⟩) hy (by dsimp only; omega)
    have length := daysOfMonths_toNat year hm.1
    simp only [number, Int.add_sub_cancel] at first next
    omega

theorem Sound.within_year (h : d.Sound) :
    0 ≤ daysOfMonths d.year (d.month - 1).toNat + (d.day - 1) ∧
      daysOfMonths d.year (d.month - 1).toNat + (d.day - 1) <
        daysOfMonths d.year d.month.toNat := by
  have start : 0 ≤ daysOfMonths d.year (d.month - 1).toNat := daysOfMonths_le _ (Nat.zero_le _)
  have month := daysOfMonths_toNat d.year h.month.1
  have day := h.day
  omega

theorem Sound.number_range (h : d.Sound) :
    daysOfYears (d.year - 1).toNat ≤ d.number ∧ d.number < daysOfYears d.year.toNat := by
  have months := h.within_year
  have year : daysOfMonths d.year d.month.toNat ≤ daysOfMonths d.year 12 :=
    daysOfMonths_le _ (by have := h.month; omega)
  have whole := daysOfYears_toNat h.year.1
  rw [number]
  omega

/-- A day that comes no later lies in no later year. -/
theorem Sound.year_le (hd : d.Sound) (he : e.Sound) (h : d.number ≤ e.number) : d.year ≤ e.year := by
  by_contra later
  have : daysOfYears e.year.toNat ≤ daysOfYears (d.year - 1).toNat := daysOfYears_le (by omega)
  have := hd.number_range
  have := he.number_range
  omega

/-- Of the same year, it lies in no later month. -/
theorem Sound.month_le (hd : d.Sound) (he : e.Sound) (year : d.year = e.year)
    (h : d.number ≤ e.number) : d.month ≤ e.month := by
  by_contra later
  have start := hd.day.1
  have last := he.within_year.2
  have : daysOfMonths e.year e.month.toNat ≤ daysOfMonths e.year (d.month - 1).toNat :=
    daysOfMonths_le _ (by omega)
  rw [number, number, year] at h
  omega

/-- No two dates have the same number. -/
theorem Sound.eq_of_number (hd : d.Sound) (he : e.Sound) (h : d.number = e.number) : d = e := by
  have year := le_antisymm (hd.year_le he h.le) (he.year_le hd h.ge)
  have month := le_antisymm (hd.month_le he year h.le) (he.month_le hd year.symm h.ge)
  rw [number, number, year, month] at h
  have day : d.day = e.day := by omega
  cases d
  cases e
  simp_all

/-- The date that a day lies on, if its number is one of the years 1 to 9999. -/
theorem sound_of_place {p : Place} {n : Int} (hp : p.number = firstDay + n)
    (h0 : 0 ≤ n) (h1 : n < daysOfYears 9999) : p.date.Sound ∧ p.date.number = n := by
  have place := p.dayOfDate_date
  rw [hp] at place
  obtain ⟨month, day⟩ := p.date_sound
  have first : 1 ≤ p.date.year := by
    have short := monthLength_le p.date.year p.date.month
    have origin : firstDay = 306 := rfl
    rw [dayOfDate] at place
    by_contra before
    split_ifs at place <;> omega
  have number := dayOfDate_eq first month
  refine ⟨⟨⟨first, ?_⟩, month, day⟩, by omega⟩
  by_contra after
  have : daysOfYears 9999 ≤ daysOfYears (p.date.year - 1).toNat := daysOfYears_le (by omega)
  have : 0 ≤ daysOfMonths p.date.year (p.date.month - 1).toNat := daysOfMonths_le _ (Nat.zero_le _)
  rw [Date.number] at number
  omega

theorem Sound.number_within (h : d.Sound) : 0 ≤ d.number ∧ d.number < daysOfYears 9999 := by
  have year := h.year
  have first : 0 ≤ daysOfYears (d.year - 1).toNat := daysOfYears_le (Nat.zero_le _)
  have last : daysOfYears d.year.toNat ≤ daysOfYears 9999 := daysOfYears_le (by omega)
  have := h.number_range
  omega

/-- Every day of the years 1 to 9999 has a date. -/
theorem exists_sound {n : Int} (h0 : 0 ≤ n) (h1 : n < daysOfYears 9999) :
    ∃ d : Date, d.Sound ∧ d.number = n := by
  obtain ⟨p, hp⟩ := Place.exists_number (firstDay + n)
  exact ⟨p.date, sound_of_place hp h0 h1⟩

/-- The date of a day is found again from its number. -/
theorem Sound.dateOfDay (h : d.Sound) :
    Calendar.dateOfDay (firstDay + d.number) = (d.year, d.month, d.day) := by
  obtain ⟨p, hp⟩ := Place.exists_number (firstDay + d.number)
  obtain ⟨sound, number⟩ := sound_of_place hp h.number_within.1 h.number_within.2
  rw [← hp, p.dateOfDay_number, sound.eq_of_number h number]

end Timestamp.Date

end TriggerFlow
