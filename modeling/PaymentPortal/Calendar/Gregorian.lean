/-!
# The proleptic Gregorian calendar

Days are counted from 1 January 1970.  A year, a month and a day of the month
name a day number, also where the month or the day runs out of its range; every
day number has exactly one valid date.
-/

namespace PaymentPortal.Calendar

/-! ## Years -/

/-- One in a leap year and zero in any other. -/
def leapDay (year : Int) : Int :=
  if year % 4 = 0 ∧ (year % 100 ≠ 0 ∨ year % 400 = 0) then 1 else 0

/-- The number of the first day of a year. -/
def firstDay (year : Int) : Int :=
  365 * (year - 1970) + (year - 1969) / 4 - (year - 1901) / 100 +
    (year - 1601) / 400

/-- The year a day falls in: the mean length of a year gives an estimate, which
is at most one off. -/
def yearOfDay (day : Int) : Int :=
  let estimate := 1970 + 400 * day / 146097
  if day < firstDay estimate then estimate - 1
  else if firstDay (estimate + 1) ≤ day then estimate + 1
  else estimate

theorem leapDay_cases (year : Int) : leapDay year = 0 ∨ leapDay year = 1 := by
  unfold leapDay
  split <;> simp

theorem firstDay_succ (year : Int) :
    firstDay (year + 1) = firstDay year + 365 + leapDay year := by
  unfold firstDay leapDay
  split <;> omega

theorem firstDay_mono {earlier later : Int} (notAfter : earlier ≤ later) :
    firstDay earlier ≤ firstDay later := by
  unfold firstDay
  omega

theorem yearOfDay_spec (day : Int) :
    firstDay (yearOfDay day) ≤ day ∧ day < firstDay (yearOfDay day + 1) := by
  unfold yearOfDay
  dsimp only
  split
  · rw [Int.sub_add_cancel]
    unfold firstDay at *
    omega
  · split
    · unfold firstDay at *
      omega
    · omega

/-- The years partition the days, so the first and the last day of a year decide
what falls in it. -/
theorem yearOfDay_eq {year day : Int}
    (notBefore : firstDay year ≤ day) (before : day < firstDay (year + 1)) :
    yearOfDay day = year := by
  obtain ⟨lower, upper⟩ := yearOfDay_spec day
  rcases Int.lt_trichotomy (yearOfDay day) year with less | same | more
  · have := firstDay_mono (Int.add_one_le_of_lt less)
    omega
  · exact same
  · have := firstDay_mono (Int.add_one_le_of_lt more)
    omega

theorem le_yearOfDay {year day : Int} (notBefore : firstDay year ≤ day) :
    year ≤ yearOfDay day := by
  have := (yearOfDay_spec day).2
  rcases Int.lt_or_le (yearOfDay day) year with less | notLess
  · have := firstDay_mono (Int.add_one_le_of_lt less)
    omega
  · exact notLess

/-! ## Months -/

/-- The days of a year before the first of a month. -/
def daysBefore (leap month : Int) : Int :=
  if month ≤ 1 then 0
  else if month = 2 then 31
  else if month = 3 then 59 + leap
  else if month = 4 then 90 + leap
  else if month = 5 then 120 + leap
  else if month = 6 then 151 + leap
  else if month = 7 then 181 + leap
  else if month = 8 then 212 + leap
  else if month = 9 then 243 + leap
  else if month = 10 then 273 + leap
  else if month = 11 then 304 + leap
  else if month = 12 then 334 + leap
  else 365 + leap

/-- The month of a day counted from the start of its year. -/
def monthOfDay (leap day : Int) : Int :=
  if day < 31 then 1
  else if day < 59 + leap then 2
  else if day < 90 + leap then 3
  else if day < 120 + leap then 4
  else if day < 151 + leap then 5
  else if day < 181 + leap then 6
  else if day < 212 + leap then 7
  else if day < 243 + leap then 8
  else if day < 273 + leap then 9
  else if day < 304 + leap then 10
  else if day < 334 + leap then 11
  else 12

/-- The number of days of a month. -/
def monthLength (year month : Int) : Int :=
  daysBefore (leapDay year) (month + 1) - daysBefore (leapDay year) month

theorem monthLength_ge (year : Int) {month : Int}
    (lower : 1 ≤ month) (upper : month ≤ 12) : 28 ≤ monthLength year month := by
  have := leapDay_cases year
  unfold monthLength
  fun_cases daysBefore (leapDay year) month
  all_goals
    unfold daysBefore
    omega

/-- The leap day shifts the months after February. -/
theorem daysBefore_leap (leap month : Int) :
    daysBefore leap month =
      daysBefore 0 month + if 3 ≤ month then leap else 0 := by
  fun_cases daysBefore leap month
  all_goals
    unfold daysBefore
    omega

/-- Only February has a length that depends on the year. -/
theorem monthLength_eq {month : Int} (notFebruary : month ≠ 2)
    (year other : Int) : monthLength year month = monthLength other month := by
  have shift := daysBefore_leap (leapDay year)
  have otherShift := daysBefore_leap (leapDay other)
  unfold monthLength
  rw [shift (month + 1), shift month, otherShift (month + 1), otherShift month]
  omega

theorem monthLength_february (year : Int) :
    monthLength year 2 = 28 + leapDay year := by
  change 59 + leapDay year - 31 = _
  omega

theorem monthOfDay_range (leap day : Int) :
    1 ≤ monthOfDay leap day ∧ monthOfDay leap day ≤ 12 := by
  unfold monthOfDay
  omega

theorem daysBefore_le_succ {leap : Int} (yearKind : leap = 0 ∨ leap = 1)
    (month : Int) : daysBefore leap month ≤ daysBefore leap (month + 1) := by
  fun_cases daysBefore leap month
  all_goals
    unfold daysBefore
    omega

theorem daysBefore_mono {leap earlier later : Int}
    (yearKind : leap = 0 ∨ leap = 1) (notAfter : earlier ≤ later) :
    daysBefore leap earlier ≤ daysBefore leap later := by
  obtain ⟨months, rfl⟩ := Int.le.dest notAfter
  induction months with
  | zero => simp
  | succ months ih =>
      have step := daysBefore_le_succ yearKind (earlier + months)
      rw [Int.add_assoc] at step
      exact Int.le_trans (ih (by omega)) step

theorem monthOfDay_spec (leap day : Int)
    (notBefore : 0 ≤ day) (before : day < 365 + leap) :
    daysBefore leap (monthOfDay leap day) ≤ day ∧
      day < daysBefore leap (monthOfDay leap day + 1) := by
  fun_cases monthOfDay leap day
  all_goals
    simp only [daysBefore, Int.reduceAdd, Int.reduceLE, Int.reduceEq, if_true,
      if_false]
    omega

/-- Every month lies inside its year. -/
theorem daysBefore_range {leap month : Int}
    (yearKind : leap = 0 ∨ leap = 1) (upper : month ≤ 12) :
    0 ≤ daysBefore leap month ∧ daysBefore leap (month + 1) ≤ 365 + leap := by
  constructor
  · rcases Int.lt_or_le 1 month with later | early
    · exact daysBefore_mono yearKind (Int.le_of_lt later)
    · exact Int.le_of_eq (if_pos early).symm
  · exact daysBefore_mono yearKind (Int.add_le_add_right upper 1)

/-- The months partition the days of a year. -/
theorem monthOfDay_eq {leap month day : Int}
    (yearKind : leap = 0 ∨ leap = 1) (upper : month ≤ 12)
    (notBefore : daysBefore leap month ≤ day)
    (before : day < daysBefore leap (month + 1)) :
    monthOfDay leap day = month := by
  obtain ⟨first, last⟩ := daysBefore_range yearKind upper
  have spec := monthOfDay_spec leap day (by omega) (by omega)
  rcases Int.lt_trichotomy (monthOfDay leap day) month with less | same | more
  · have := daysBefore_mono yearKind (Int.add_one_le_of_lt less)
    omega
  · exact same
  · have := daysBefore_mono yearKind (Int.add_one_le_of_lt more)
    omega

/-! ## Dates -/

/-- A date by its fields, not all of which name a day of the calendar. -/
structure Date where
  year : Int
  month : Int
  day : Int
  deriving DecidableEq, Repr

namespace Date

/-- The fields are those of a day of the calendar. -/
structure Valid (date : Date) : Prop where
  month_pos : 1 ≤ date.month
  month_le : date.month ≤ 12
  day_pos : 1 ≤ date.day
  day_le : date.day ≤ monthLength date.year date.month

instance (date : Date) : Decidable date.Valid :=
  decidable_of_iff
    (1 ≤ date.month ∧ date.month ≤ 12 ∧ 1 ≤ date.day ∧
      date.day ≤ monthLength date.year date.month)
    ⟨fun ⟨monthPos, monthLe, dayPos, dayLe⟩ =>
        ⟨monthPos, monthLe, dayPos, dayLe⟩,
      fun valid =>
        ⟨valid.month_pos, valid.month_le, valid.day_pos, valid.day_le⟩⟩

/-- The number of a date.  A month out of range runs into other years, a day out
of range into other months. -/
def toDay (date : Date) : Int :=
  let year := date.year + (date.month - 1) / 12
  firstDay year + daysBefore (leapDay year) ((date.month - 1) % 12 + 1) +
    (date.day - 1)

/-- The date of a day. -/
def ofDay (day : Int) : Date :=
  let year := yearOfDay day
  let month := monthOfDay (leapDay year) (day - firstDay year)
  { year := year
    month := month
    day := day - firstDay year - daysBefore (leapDay year) month + 1 }

theorem toDay_eq {year month : Int} (day : Int)
    (lower : 1 ≤ month) (upper : month ≤ 12) :
    toDay ⟨year, month, day⟩ =
      firstDay year + daysBefore (leapDay year) month + (day - 1) := by
  have sameYear : year + (month - 1) / 12 = year := by omega
  have sameMonth : (month - 1) % 12 + 1 = month := by omega
  simp only [toDay, sameYear, sameMonth]

/-- The day of the month counts days, also out of its range. -/
theorem toDay_add (date : Date) (days : Int) :
    toDay ⟨date.year, date.month, date.day + days⟩ = date.toDay + days := by
  simp only [toDay]
  omega

theorem first_valid (year : Int) {month : Int}
    (lower : 1 ≤ month) (upper : month ≤ 12) : Valid ⟨year, month, 1⟩ where
  month_pos := lower
  month_le := upper
  day_pos := Int.le_refl 1
  day_le := Int.le_trans (show (1 : Int) ≤ 28 by decide)
    (monthLength_ge year lower upper)

theorem Valid.inYear {date : Date} (valid : date.Valid) :
    firstDay date.year ≤ date.toDay ∧
      date.toDay < firstDay (date.year + 1) := by
  obtain ⟨year, month, day⟩ := date
  obtain ⟨monthPos, monthLe, dayPos, dayLe⟩ := valid
  have range := daysBefore_range (leapDay_cases year) monthLe
  have next := firstDay_succ year
  simp only [monthLength] at *
  rw [toDay_eq day monthPos monthLe]
  omega

@[simp]
theorem ofDay_toDay {date : Date} (valid : date.Valid) :
    ofDay date.toDay = date := by
  obtain ⟨notBefore, before⟩ := valid.inYear
  obtain ⟨year, month, day⟩ := date
  obtain ⟨monthPos, monthLe, dayPos, dayLe⟩ := valid
  simp only [monthLength] at *
  have sameYear : yearOfDay (toDay ⟨year, month, day⟩) = year :=
    yearOfDay_eq notBefore before
  have sameMonth :
      monthOfDay (leapDay year) (toDay ⟨year, month, day⟩ - firstDay year) =
        month := by
    rw [toDay_eq day monthPos monthLe]
    exact monthOfDay_eq (leapDay_cases year) monthLe (by omega) (by omega)
  simp only [ofDay, sameYear, sameMonth, Date.mk.injEq, true_and]
  rw [toDay_eq day monthPos monthLe]
  omega

theorem ofDay_valid (day : Int) : (ofDay day).Valid := by
  obtain ⟨notBefore, before⟩ := yearOfDay_spec day
  rw [firstDay_succ] at before
  have month := monthOfDay_range (leapDay (yearOfDay day))
    (day - firstDay (yearOfDay day))
  have spec := monthOfDay_spec (leapDay (yearOfDay day))
    (day - firstDay (yearOfDay day)) (by omega) (by omega)
  exact {
    month_pos := month.1
    month_le := month.2
    day_pos := by simp only [ofDay]; omega
    day_le := by simp only [ofDay, monthLength]; omega }

@[simp]
theorem toDay_ofDay (day : Int) : (ofDay day).toDay = day := by
  have valid := ofDay_valid day
  rw [show ofDay day =
    ⟨(ofDay day).year, (ofDay day).month, (ofDay day).day⟩ from rfl]
  rw [toDay_eq _ valid.month_pos valid.month_le]
  simp only [ofDay]
  omega

theorem Valid.le_year {date : Date} (valid : date.Valid) {year : Int}
    (notBefore : firstDay year ≤ date.toDay) : year ≤ date.year := by
  rw [← ofDay_toDay valid]
  exact le_yearOfDay notBefore

/-- A day has one valid date. -/
theorem ofDay_eq_iff {date : Date} (valid : date.Valid) {day : Int} :
    ofDay day = date ↔ day = date.toDay := by
  constructor
  · rintro rfl
    exact (toDay_ofDay day).symm
  · rintro rfl
    exact ofDay_toDay valid

/-- The next day of the calendar. -/
def next (date : Date) : Date := ofDay (date.toDay + 1)

theorem next_valid (date : Date) : date.next.Valid := ofDay_valid _

@[simp]
theorem toDay_next (date : Date) : date.next.toDay = date.toDay + 1 :=
  toDay_ofDay _

/-! ### Order -/

theorem Valid.toDay_lt_of_year {earlier later : Date}
    (validEarlier : earlier.Valid) (validLater : later.Valid)
    (before : earlier.year < later.year) : earlier.toDay < later.toDay := by
  have := validEarlier.inYear.2
  have := validLater.inYear.1
  have := firstDay_mono (Int.add_one_le_of_lt before)
  omega

theorem toDay_le_of_month {year earlier later : Int} (day : Int)
    (lower : 1 ≤ earlier) (notAfter : earlier ≤ later) (upper : later ≤ 12) :
    toDay ⟨year, earlier, day⟩ ≤ toDay ⟨year, later, day⟩ := by
  rw [toDay_eq day lower (by omega), toDay_eq day (by omega) upper]
  have := daysBefore_mono (leapDay_cases year) notAfter
  omega

theorem Valid.toDay_lt_of_month {date : Date} (valid : date.Valid)
    {month : Int} (before : date.month < month) (upper : month ≤ 12) :
    date.toDay < toDay ⟨date.year, month, 1⟩ := by
  obtain ⟨year, own, day⟩ := date
  obtain ⟨monthPos, monthLe, dayPos, dayLe⟩ := valid
  simp only [monthLength] at *
  rw [toDay_eq day monthPos monthLe, toDay_eq 1 (by omega) upper]
  have := daysBefore_mono (leapDay_cases year) (Int.add_one_le_of_lt before)
  omega

end Date

/-! ## Weeks -/

/-- The day of the week, from zero for Sunday. -/
def weekday (day : Int) : Int := (day + 4) % 7

theorem weekday_range (day : Int) : 0 ≤ weekday day ∧ weekday day ≤ 6 := by
  unfold weekday
  omega

/-- The Sunday that opens the week of a day. -/
def weekStart (day : Int) : Int := day - weekday day

theorem weekday_weekStart (day : Int) : weekday (weekStart day) = 0 := by
  unfold weekStart weekday
  omega

/-- The `nth` Sunday of a month. -/
def nthSunday (nth year month : Int) : Int :=
  let first := Date.toDay ⟨year, month, 1⟩
  first + (7 - weekday first) % 7 + 7 * (nth - 1)

theorem nthSunday_range (nth year month : Int) :
    Date.toDay ⟨year, month, 1⟩ + 7 * (nth - 1) ≤ nthSunday nth year month ∧
      nthSunday nth year month < Date.toDay ⟨year, month, 1⟩ + 7 * nth := by
  simp only [nthSunday, weekday]
  omega

end PaymentPortal.Calendar
