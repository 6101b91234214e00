import TriggerFlow.Proofs.Calendar.Day

/-! # Universal time keeps the instant

A civil time is a date of the years 1 to 9999 with a time of day; with an offset it is a timestamp
(`CivilTime.stamp`), and every timestamp that is made of parts is one (`ofParts_eq_ok`).  Its instant
counts the microseconds since the beginning of year 1 in universal time.  The instants of these years
and the universal civil times correspond (`CivilTime.exists_elapsed`, `CivilTime.eq_of_elapsed`), so
`toUniversal` has a result exactly for the instants of these years, and it is the civil time of the same
instant: `toUniversal_keeps_instant`. -/

namespace TriggerFlow.Timestamp

open Calendar

/-! ### Times of day -/

/-- A time of a day, to the microsecond. -/
structure Clock.Sound (c : Clock) : Prop where
  hour : c.hour < 24
  minute : c.minute < 60
  second : c.second < 60
  micro : c.micro < 1000000

theorem dayMicros_eq : dayMicros = 86400000000 := rfl

namespace Clock

variable {c d : Clock}

theorem Sound.micros_lt (h : c.Sound) : (c.micros : Int) < dayMicros := by
  obtain ⟨hour, minute, second, micro⟩ := h
  rw [micros, seconds, dayMicros_eq]
  omega

theorem Sound.eq_of_micros (hc : c.Sound) (hd : d.Sound) (h : c.micros = d.micros) : c = d := by
  obtain ⟨hour, minute, second, micro⟩ := hc
  obtain ⟨hour', minute', second', micro'⟩ := hd
  cases c
  cases d
  simp only [micros, seconds] at *
  simp only [mk.injEq]
  omega

/-- Every microsecond of a day has its time. -/
theorem exists_sound {n : Int} (h0 : 0 ≤ n) (h1 : n < dayMicros) :
    ∃ c : Clock, c.Sound ∧ (c.micros : Int) = n := by
  rw [dayMicros_eq] at h1
  obtain ⟨m, rfl⟩ := Int.eq_ofNat_of_zero_le h0
  refine ⟨⟨m / 3600000000, m / 60000000 % 60, m / 1000000 % 60, m % 1000000⟩,
    ⟨?_, ?_, ?_, ?_⟩, ?_⟩
  all_goals
    simp only [micros, seconds]
    omega

end Clock

/-! ### Civil times -/

/-- A date of the years 1 to 9999 and a time of day. -/
structure CivilTime where
  date : Date
  time : Clock
  date_sound : date.Sound
  time_sound : time.Sound

/-- An instant of the years 1 to 9999, in microseconds since the beginning of year 1. -/
def InYears (instant : Int) : Prop := 0 ≤ instant ∧ instant < daysOfYears 9999 * dayMicros

instance (instant : Int) : Decidable (InYears instant) :=
  inferInstanceAs (Decidable (0 ≤ instant ∧ instant < daysOfYears 9999 * dayMicros))

namespace CivilTime

/-- How many microseconds have passed since the beginning of year 1. -/
def elapsed (c : CivilTime) : Int := c.date.number * dayMicros + c.time.micros

/-- The instant of a civil time at an offset from universal time. -/
def instant (c : CivilTime) (offset : Int) : Int := c.elapsed - offset

/-- The timestamp of a civil time. -/
def stamp (c : CivilTime) (offset : Option Int) : Timestamp :=
  ⟨ofDate c.date.year c.date.month c.date.day c.time.micros, offset⟩

variable {c d : CivilTime}

theorem stamp_eq (c : CivilTime) (offset : Option Int) : c.stamp offset = ⟨c.elapsed, offset⟩ := by
  have day := Date.dayOfDate_eq c.date_sound.year.1 c.date_sound.month
  rw [stamp, ofDate, day, elapsed, add_sub_cancel_left]

theorem wall_stamp (c : CivilTime) (offset : Option Int) : (c.stamp offset).wall = c.elapsed := by
  rw [stamp_eq]

theorem inYears_elapsed (c : CivilTime) : InYears c.elapsed := by
  have day := c.date_sound.number_within
  have time := c.time_sound.micros_lt
  rw [dayMicros_eq] at time
  rw [InYears, elapsed, dayMicros_eq]
  omega

/-- No two civil times have passed the same. -/
theorem eq_of_elapsed (h : c.elapsed = d.elapsed) : c = d := by
  have hc := c.time_sound.micros_lt
  have hd := d.time_sound.micros_lt
  rw [dayMicros_eq] at hc hd
  rw [elapsed, elapsed, dayMicros_eq] at h
  have date := c.date_sound.eq_of_number d.date_sound (by omega)
  have time := c.time_sound.eq_of_micros d.time_sound (by rw [date] at h; omega)
  cases c
  cases d
  simp_all

theorem stamp_inj {offset offset' : Option Int} :
    c.stamp offset = d.stamp offset' ↔ c = d ∧ offset = offset' := by
  constructor
  · intro h
    rw [stamp_eq, stamp_eq, Timestamp.mk.injEq] at h
    exact ⟨eq_of_elapsed h.1, h.2⟩
  · rintro ⟨rfl, rfl⟩
    rfl

/-- Every instant of the years 1 to 9999 is that of a universal civil time. -/
theorem exists_elapsed {n : Int} (h : InYears n) : ∃ c : CivilTime, c.elapsed = n := by
  rw [InYears, dayMicros_eq] at h
  obtain ⟨date, date_sound, number⟩ :=
    Date.exists_sound (n := n / 86400000000) (by omega) (by omega)
  obtain ⟨time, time_sound, micros⟩ :=
    Clock.exists_sound (n := n % 86400000000) (by omega) (by rw [dayMicros_eq]; omega)
  refine ⟨⟨date, time, date_sound, time_sound⟩, ?_⟩
  rw [elapsed, number, micros, dayMicros_eq]
  omega

end CivilTime

/-- The date and the time of day that a timestamp is written with. -/
theorem CivilTime.text_stamp (c : CivilTime) (offset : Option Int) :
    (c.stamp offset).text = String.ofList (
      padded 4 c.date.year.toNat ++ '-' :: padded 2 c.date.month.toNat ++
        '-' :: padded 2 c.date.day.toNat ++ 'T' :: clockChars true c.time.micros ++
      match offset with
      | none => []
      | some o => (if o < 0 then '-' else '+') :: clockChars false o.natAbs) := by
  have time := c.time_sound.micros_lt
  rw [dayMicros_eq] at time
  have day : c.elapsed / 86400000000 = c.date.number := by
    rw [elapsed, dayMicros_eq]
    omega
  have micros : (c.elapsed % 86400000000).toNat = c.time.micros := by
    rw [elapsed, dayMicros_eq]
    omega
  have date := c.date_sound.dateOfDay
  rw [add_comm] at date
  cases offset <;> simp only [stamp_eq, text, dayMicros_eq, day, micros, date]

/-- The parts of a timestamp are those of a civil time, and an offset is shorter than a day. -/
theorem ofParts_eq_ok {date : Date} {time : Clock} {offset : Option Int} {t : Timestamp}
    (fraction : time.micro < 1000000) :
    ofParts date time offset = .ok t ↔
      (∀ o ∈ offset, -dayMicros < o ∧ o < dayMicros) ∧
        ∃ c : CivilTime, c.date = date ∧ c.time = time ∧ t = c.stamp offset := by
  have short : (offset.any fun o => o ≤ -dayMicros || dayMicros ≤ o) = true ↔
      ¬ ∀ o ∈ offset, -dayMicros < o ∧ o < dayMicros := by
    cases offset with
    | none => simp
    | some o =>
        simp only [Option.any_some, Bool.or_eq_true, decide_eq_true_eq, Option.mem_some_iff,
          forall_eq']
        omega
  unfold ofParts
  simp only [short, Bool.or_eq_true, decide_eq_true_eq]
  constructor
  · intro h
    split_ifs at h with bounds year month day hour minute second
    cases h
    have year : 1 ≤ date.year ∧ date.year ≤ 9999 := by omega
    have month : 1 ≤ date.month ∧ date.month ≤ 12 := by omega
    rw [Date.daysOfMonth_eq year.1 month] at day
    have time_sound : time.Sound := ⟨by omega, by omega, by omega, fraction⟩
    exact ⟨bounds, ⟨date, time, ⟨year, month, by omega⟩, time_sound⟩, rfl, rfl, rfl⟩
  · rintro ⟨bounds, c, rfl, rfl, rfl⟩
    obtain ⟨year, month, day⟩ := c.date_sound
    obtain ⟨hour, minute, second, -⟩ := c.time_sound
    rw [Date.daysOfMonth_eq year.1 month, if_neg (not_not.mpr bounds), if_neg (by omega),
      if_neg (by omega), if_neg (by omega), if_neg (by omega), if_neg (by omega), if_neg (by omega)]
    rfl

/-! ### Universal time -/

theorem limit_eq : limit = daysOfYears 9999 * dayMicros := by
  rw [daysOfYears_eq]
  rfl

theorem toUniversal_naive (wall : WallTime) :
    toUniversal ⟨wall, none⟩ = .ok ⟨wall, some 0⟩ := rfl

theorem toUniversal_aware (wall : WallTime) (offset : Int) :
    toUniversal ⟨wall, some offset⟩ =
      if InYears (wall - offset) then .ok ⟨wall - offset, some 0⟩ else .error .dateOutOfRange := by
  simp only [toUniversal, limit_eq, Bool.and_eq_true, decide_eq_true_eq]
  rfl

theorem CivilTime.toUniversal_stamp (c : CivilTime) (offset : Int) :
    (c.stamp (some offset)).toUniversal =
      if InYears (c.instant offset) then .ok ⟨c.instant offset, some 0⟩
      else .error .dateOutOfRange := by
  rw [stamp_eq, toUniversal_aware]
  rfl

theorem toUniversal_universal {wall : WallTime} (h : InYears wall) :
    toUniversal ⟨wall, some 0⟩ = .ok ⟨wall, some 0⟩ := by
  rw [toUniversal_aware, sub_zero, if_pos h]

/-- **Universal time keeps the instant.**  A timestamp with an offset has a universal time if and only
if its instant lies in the years 1 to 9999; it is then the one civil time of these years with the same
instant, to the microsecond, at offset zero.  Else the date is out of range, and nothing else goes
wrong.  A timestamp without an offset keeps its date and time of day and is given offset zero.  What is
universal already stays as it is.  A timestamp shows only one civil time, so these fields are the only
ones that the result can be read with. -/
theorem toUniversal_keeps_instant :
    (∀ (c : CivilTime) (offset : Int),
      (InYears (c.instant offset) →
        ∃! u : CivilTime, (c.stamp (some offset)).toUniversal = .ok (u.stamp (some 0)) ∧
          u.instant 0 = c.instant offset) ∧
      ∀ cause, (c.stamp (some offset)).toUniversal = .error cause ↔
        cause = .dateOutOfRange ∧ ¬ InYears (c.instant offset)) ∧
    (∀ c : CivilTime, (c.stamp none).toUniversal = .ok (c.stamp (some 0))) ∧
    (∀ (c : CivilTime) (offset : Option Int) (t : Timestamp),
      (c.stamp offset).toUniversal = .ok t → t.toUniversal = .ok t) ∧
    ∀ (c d : CivilTime) (offset offset' : Option Int),
      c.stamp offset = d.stamp offset' ↔ c = d ∧ offset = offset' := by
  refine ⟨fun c offset => ⟨fun inYears => ?_, fun cause => ?_⟩, fun c => ?_, fun c offset t h => ?_,
    fun _ _ _ _ => CivilTime.stamp_inj⟩
  · obtain ⟨u, hu⟩ := CivilTime.exists_elapsed inYears
    have same : u.instant 0 = c.instant offset := by rw [CivilTime.instant, hu, sub_zero]
    refine ⟨u, ⟨?_, same⟩, fun v hv => CivilTime.eq_of_elapsed ?_⟩
    · rw [c.toUniversal_stamp, if_pos inYears, u.stamp_eq, hu]
    · rw [hu, ← hv.2, CivilTime.instant, sub_zero]
  · rw [c.toUniversal_stamp]
    split <;> simp_all [eq_comm]
  · rw [CivilTime.stamp_eq, CivilTime.stamp_eq, toUniversal_naive]
  · cases offset with
    | none =>
        rw [CivilTime.stamp_eq] at h
        cases h
        exact toUniversal_universal c.inYears_elapsed
    | some offset =>
        rw [c.toUniversal_stamp] at h
        split at h <;> cases h
        exact toUniversal_universal ‹_›

/-- Half an hour before the end of a leap day, west of the prime meridian. -/
def leapEvening : CivilTime where
  date := ⟨2024, 2, 29⟩
  time := ⟨23, 30, 0, 1⟩
  date_sound := ⟨by decide, by decide, by decide⟩
  time_sound := ⟨by decide, by decide, by decide, by decide⟩

/-- The same moment an hour further to the east. -/
def marchNight : CivilTime where
  date := ⟨2024, 3, 1⟩
  time := ⟨0, 30, 0, 1⟩
  date_sound := ⟨by decide, by decide, by decide⟩
  time_sound := ⟨by decide, by decide, by decide, by decide⟩

/-- The last microsecond of the calendar. -/
def lastMoment : CivilTime where
  date := ⟨9999, 12, 31⟩
  time := ⟨23, 59, 59, 999999⟩
  date_sound := ⟨by decide, by decide, by decide⟩
  time_sound := ⟨by decide, by decide, by decide, by decide⟩

theorem toUniversal_keeps_instant_leapEvening :
    InYears (leapEvening.instant (-3600000000)) ∧
      (leapEvening.stamp (some (-3600000000))).toUniversal = .ok (marchNight.stamp (some 0)) ∧
      ¬ InYears (lastMoment.instant (-1)) ∧
      (lastMoment.stamp (some (-1))).toUniversal = .error .dateOutOfRange ∧
      (lastMoment.stamp none).toUniversal = .ok (lastMoment.stamp (some 0)) := by
  have evening : leapEvening.elapsed = 63844846200000001 := by
    rw [← leapEvening.wall_stamp none]
    decide
  have night : marchNight.elapsed = 63844849800000001 := by
    rw [← marchNight.wall_stamp none]
    decide
  have last : lastMoment.elapsed = 315537897599999999 := by
    rw [← lastMoment.wall_stamp none]
    decide
  obtain ⟨aware, naive, -, -⟩ := toUniversal_keeps_instant
  have inYears : InYears (leapEvening.instant (-3600000000)) := by
    rw [CivilTime.instant, evening, InYears, ← limit_eq]
    decide
  have beyond : ¬ InYears (lastMoment.instant (-1)) := by
    rw [CivilTime.instant, last, InYears, ← limit_eq]
    decide
  obtain ⟨u, ⟨result, same⟩, -⟩ := (aware leapEvening (-3600000000)).1 inYears
  have u_eq : u = marchNight := by
    apply CivilTime.eq_of_elapsed
    rw [CivilTime.instant, CivilTime.instant, evening] at same
    omega
  exact ⟨inYears, u_eq ▸ result, beyond, ((aware lastMoment (-1)).2 _).mpr ⟨rfl, beyond⟩,
    naive lastMoment⟩

end TriggerFlow.Timestamp
