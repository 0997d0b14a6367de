import PaymentPortal.Guarantees.ReportingPeriods
import PaymentPortal.Guarantees.WallClock

/-!
# Prior-year comparison periods

The comparison moves the date of now by a year, and the week's end to the weekday
of now; the clocks then show the time of now, or an hour more where that time is
jumped over.  Everything else is the order of days.
-/

namespace PaymentPortal.Guarantees

open PaymentPortal.Calendar PaymentPortal.Model

/-! ## The dates compared with -/

/-- The same date one year earlier, 28 February for 29 February. -/
def sameDateLastYear (date : CourtDayParts) : CourtDayParts where
  year := date.year - 1
  month := date.month
  day := if date.month = 2 ∧ date.day = 29 then 28 else date.day

/-- The date on which the comparison with a period ends. -/
def comparisonDate (date : CourtDayParts) : CourtPeriodName → CourtDayParts
  | .week => Date.ofDay
      (weekStart (sameDateLastYear date).toDay + weekday date.toDay)
  | _ => sameDateLastYear date

section Dates

variable {date : CourtDayParts} (valid : date.Valid)
include valid

theorem sameDateLastYear_valid : (sameDateLastYear date).Valid := by
  have ownLength := valid.day_le
  have dayPos := valid.day_pos
  have leap := leapDay_cases date.year
  have leapBefore := leapDay_cases (date.year - 1)
  refine ⟨valid.month_pos, valid.month_le, ?_, ?_⟩ <;>
    simp only [sameDateLastYear]
  · split <;> omega
  · by_cases february : date.month = 2
    · rw [february, monthLength_february] at ownLength
      rw [february, monthLength_february]
      split <;> omega
    · rw [if_neg (fun leapDay => february leapDay.1),
        monthLength_eq february
          (date.year - 1) date.year]
      exact ownLength

/-- The year before a leap day has none. -/
theorem leapDay_shift_iff :
    (date.month = 2 ∧ date.day = 29 ∧
        ¬((date.year + -1) % 4 = 0 ∧
          ((date.year + -1) % 100 ≠ 0 ∨ (date.year + -1) % 400 = 0))) ↔
      date.month = 2 ∧ date.day = 29 := by
  refine ⟨fun ⟨february, isLeapDay, _⟩ => ⟨february, isLeapDay⟩,
    fun ⟨february, isLeapDay⟩ => ⟨february, isLeapDay, ?_⟩⟩
  have length := valid.day_le
  rw [february, monthLength_february, leapDay] at length
  split at length <;> omega

/-- The comparison is made with a date of a year before. -/
theorem sameDateLastYear_before :
    (sameDateLastYear date).toDay + 365 ≤ date.toDay := by
  obtain ⟨year, month, day⟩ := date
  have monthPos := valid.month_pos
  have monthLe := valid.month_le
  have leap := leapDay_cases year
  have leapBefore := leapDay_cases (year - 1)
  have next := firstDay_succ (year - 1)
  simp only [sameDateLastYear] at *
  rw [Int.sub_add_cancel] at next
  rw [Date.toDay_eq _ monthPos monthLe, Date.toDay_eq _ monthPos monthLe,
    daysBefore_leap (leapDay year), daysBefore_leap (leapDay (year - 1))]
  omega

theorem sameDateLastYear_lt_fiscalYear :
    (sameDateLastYear date).toDay < openingDay date .fiscalYear := by
  have october : FISCAL_YEAR_START_MONTH = 10 := rfl
  have lastYear := sameDateLastYear_valid valid
  simp only [openingDay, openingParts]
  split
  · exact lastYear.toDay_lt_of_year
      (Date.first_valid _ (by decide) (by decide))
      (by simp only [sameDateLastYear]; omega)
  · exact lastYear.toDay_lt_of_month
      (by simp only [sameDateLastYear]; omega) (by decide)

theorem comparisonDate_valid (name : CourtPeriodName) :
    (comparisonDate date name).Valid := by
  cases name
  case week => exact Date.ofDay_valid _
  all_goals exact sameDateLastYear_valid valid

theorem comparisonDate_since (since : 2009 ≤ date.year)
    (name : CourtPeriodName) : 2007 ≤ (comparisonDate date name).year := by
  cases name
  case week =>
    have lastYear := (sameDateLastYear_valid valid).inYear.1
    have range := weekday_range date.toDay
    have shifted := weekday_range (sameDateLastYear date).toDay
    have from2008 : firstDay 2008 ≤ firstDay (sameDateLastYear date).year :=
      firstDay_mono (by simp only [sameDateLastYear]; omega)
    have next : firstDay 2008 = firstDay 2007 + 365 := rfl
    refine (Date.ofDay_valid _).le_year ?_
    rw [Date.toDay_ofDay]
    unfold weekStart
    omega
  all_goals
    simp only [comparisonDate, sameDateLastYear]
    omega

/-- Every comparison ends on or after the day on which it opens. -/
theorem openingDay_le_comparisonDate (name : CourtPeriodName) :
    openingDay (sameDateLastYear date) name ≤
      (comparisonDate date name).toDay := by
  cases name
  case week =>
    have range := weekday_range date.toDay
    rw [openingDay_week, comparisonDate, Date.toDay_ofDay]
    omega
  all_goals exact (openingDay_range (sameDateLastYear_valid valid) _).2

/-- Every comparison ends before the day on which the current period opens. -/
theorem comparisonDate_lt_openingDay (name : CourtPeriodName) :
    (comparisonDate date name).toDay < openingDay date name := by
  have day : openingDay date .day = date.toDay := rfl
  have week := openingDay_week date
  have month := month_le_day valid
  have quarter := quarter_le_month valid
  have fiscalYear := fiscalYear_le_quarter valid
  have before := sameDateLastYear_lt_fiscalYear valid
  cases name
  case week =>
    have yearAgo := sameDateLastYear_before valid
    have range := weekday_range date.toDay
    have shifted := weekday_range (sameDateLastYear date).toDay
    rw [comparisonDate, Date.toDay_ofDay, week]
    unfold weekStart
    omega
  all_goals
    simp only [comparisonDate]
    omega

end Dates

/-! ## The times compared with -/

/-- The clocks show a date and time, or the next hour where no instant shows
it. -/
def ShowsOrNextHour (court : Zone) (value : ZonedDateTime) (instant : Int) :
    Prop :=
  Shows court value instant ∨
    (∀ other, ¬Shows court value other) ∧
      Shows court { value with hour := value.hour + 1 } instant

/-- A date, at the time of day that the clocks show at an instant. -/
def atTimeOf (court : Zone) (date : CourtDayParts) (instant : Int) :
    ZonedDateTime :=
  { partsInZone instant court with toDate := date }

theorem atTimeOf_ofDay (court : Zone) (date : CourtDayParts) (instant : Int) :
    (atTimeOf court date instant).OfDay :=
  have ofDay := partsInZone_ofDay court instant
  ⟨ofDay.hour, ofDay.minute, ofDay.second⟩

section Conversion

variable {court : Zone} (follows : FollowsNewYork court)
include follows

/-- A conversion shows its date and time, or the next hour. -/
theorem zonedDateTimeToUtc_shows {value : ZonedDateTime}
    (valid : value.toDate.Valid) (ofDay : value.OfDay)
    (since : 2007 ≤ value.year) :
    ShowsOrNextHour court value (zonedDateTimeToUtc value court) := by
  by_cases unshown : ∀ instant, ¬Shows court value instant
  · exact .inr ⟨unshown, (shows_nextHour follows valid ofDay since unshown).1⟩
  · rw [unshown_iff follows valid ofDay since] at unshown
    exact .inl (shows_converted follows valid ofDay since unshown)

theorem atTimeOf_shows {date : CourtDayParts} (valid : date.Valid)
    (from2007 : 2007 ≤ date.year) (now : Int) :
    ShowsOrNextHour court (atTimeOf court date now)
      (zonedDateTimeToUtc (atTimeOf court date now) court) :=
  zonedDateTimeToUtc_shows follows valid (atTimeOf_ofDay court date now)
    from2007

/-- Dates that name the same day convert alike. -/
theorem zonedDateTimeToUtc_congr {first second : ZonedDateTime}
    (sameDay : first.toDay = second.toDay) (sameHour : first.hour = second.hour)
    (sameMinute : first.minute = second.minute)
    (sameSecond : first.second = second.second)
    (century : 100 ≤ first.year ∧ 100 ≤ second.year) (ofDay : second.OfDay)
    (since : firstDay 2007 ≤ second.toDay) :
    zonedDateTimeToUtc first court = zonedDateTimeToUtc second court := by
  have sameReading : first.reading = second.reading := by
    rw [ZonedDateTime.reading, sameDay, sameHour, sameMinute, sameSecond]
    rfl
  have from2007 : firstDay 2007 * msPerDay ≤ second.reading := by
    have := ofDay.within.1
    unfold msPerDay at *
    omega
  rw [follows.zonedDateTimeToUtc_eq century.1 (sameReading ▸ from2007),
    follows.zonedDateTimeToUtc_eq century.2 from2007, sameReading, sameHour,
    sameMinute]

end Conversion

theorem ShowsOrNextHour.date {court : Zone} {value : ZonedDateTime}
    {instant : Int} (shown : ShowsOrNextHour court value instant) :
    court.date instant = value.toDate := by
  rcases shown with shown | ⟨_, nextHour⟩
  · exact shown.1
  · exact nextHour.1

/-! ## The comparison periods -/

theorem previousStart_eq (court : Zone) (now : Int) (name : CourtPeriodName) :
    (previousCourtPeriodBounds court now name).start =
      (courtPeriodBounds court (shiftCourtYear court now (-1)) name).start := by
  cases name <;> rfl

/-- The comparison shifts the date and keeps the time of day. -/
theorem shiftCourtYear_eq {court : Zone} {now : Int}
    (since : 2009 ≤ (court.date now).year) :
    shiftCourtYear court now (-1) =
      zonedDateTimeToUtc
        (atTimeOf court (sameDateLastYear (court.date now)) now) court := by
  have same := partsInZone_toDate (show 1 ≤ (court.date now).year by omega)
  have valid := court.date_valid now
  simp only [shiftCourtYear, atTimeOf, sameDateLastYear, same,
    leapDay_shift_iff valid, Int.sub_eq_add_neg]

section Comparison

variable {court : Zone} (follows : FollowsNewYork court) {now : Int}
  (since : 2009 ≤ (court.date now).year)
include follows since

theorem date_shiftCourtYear :
    court.date (shiftCourtYear court now (-1)) =
      sameDateLastYear (court.date now) := by
  rw [shiftCourtYear_eq since]
  exact (atTimeOf_shows follows
    (sameDateLastYear_valid (court.date_valid now))
    (by simp only [sameDateLastYear]; omega) now).date

theorem since_shiftCourtYear :
    2008 ≤ (court.date (shiftCourtYear court now (-1))).year := by
  rw [date_shiftCourtYear follows since]
  simp only [sameDateLastYear]
  omega

/-- The week's comparison counts the weekday of now from the shifted week's
Sunday. -/
theorem previousEnd_week :
    (previousCourtPeriodBounds court now .week).end_ =
      zonedDateTimeToUtc
        (atTimeOf court (comparisonDate (court.date now) .week) now) court := by
  have shiftedSince := since_shiftCourtYear follows since
  have opened := toDay_date_start follows shiftedSince .week
  have from2007 := (courtPeriodBounds_eq follows shiftedSince .week).1
  rw [← opened] at from2007
  have weekSince := (court.date_valid _).le_year from2007
  have weekParts := partsInZone_toDate (Int.le_trans (by decide) weekSince)
  have nowParts := partsInZone_toDate (show 1 ≤ (court.date now).year by omega)
  have nowWeekday :=
    courtWeekday_eq (show 100 ≤ (court.date now).year by omega)
  rw [openingDay_week, date_shiftCourtYear follows since] at opened
  simp only [previousCourtPeriodBounds, weekParts, nowParts, nowWeekday]
  have valid := comparisonDate_valid (court.date_valid now) .week
  have comparisonSince :=
    comparisonDate_since (court.date_valid now) since .week
  refine zonedDateTimeToUtc_congr follows ?_ rfl rfl rfl
    ⟨Int.le_trans (by decide) weekSince,
      Int.le_trans (by decide) comparisonSince⟩
    (atTimeOf_ofDay court _ now) (since_of_valid valid comparisonSince)
  rw [Date.toDay_add, opened]
  simp only [atTimeOf, comparisonDate, Date.toDay_ofDay]

/-- Every comparison ends at the time of now on its own date. -/
theorem previousEnd_eq (name : CourtPeriodName) :
    (previousCourtPeriodBounds court now name).end_ =
      zonedDateTimeToUtc
        (atTimeOf court (comparisonDate (court.date now) name) now) court := by
  cases name
  case week => exact previousEnd_week follows since
  all_goals exact shiftCourtYear_eq since

/-- The comparison ends on its date, which is before the current period and not
before the comparison's own start. -/
theorem previousBounds_ordered (name : CourtPeriodName) :
    (previousCourtPeriodBounds court now name).start ≤
        (previousCourtPeriodBounds court now name).end_ ∧
      (previousCourtPeriodBounds court now name).end_ <
        (courtPeriodBounds court now name).start := by
  have valid := court.date_valid now
  have shown := (atTimeOf_shows follows (comparisonDate_valid valid name)
    (comparisonDate_since valid since name) now).date
  rw [← previousEnd_eq follows since] at shown
  have endDay := congrArg Date.toDay shown
  rw [Zone.toDay_date] at endDay
  obtain ⟨startSince, startBounds⟩ := courtPeriodBounds_eq follows
    (since_shiftCourtYear follows since) name
  obtain ⟨currentSince, currentBounds⟩ :=
    courtPeriodBounds_eq follows (Int.le_trans (by decide) since) name
  have beforeCurrent := comparisonDate_lt_openingDay valid name
  have afterStart : openingDay (sameDateLastYear (court.date now)) name ≤
      (comparisonDate (court.date now) name).toDay :=
    openingDay_le_comparisonDate valid name
  rw [date_shiftCourtYear follows since] at startSince startBounds
  rw [previousStart_eq, startBounds, currentBounds]
  simp only [atTimeOf] at endDay
  constructor
  · refine (follows.passes_midnight startSince _).mp ?_
    unfold msPerDay at *
    omega
  · refine Int.not_le.mp fun notBefore => ?_
    have reached := (follows.passes_midnight currentSince _).mpr notBefore
    unfold msPerDay at *
    omega

end Comparison

/-- Prior-year comparison periods start at a midnight, end no earlier and before
the current period starts, and end at the time of day of now, to the second, on
the date compared with: the same date one year earlier, or the weekday of now
in the week with that date. -/
theorem previous_periods_wellFormed {court : Zone}
    (follows : FollowsNewYork court) {now : Int}
    (since : 2009 ≤ (court.date now).year) (name : CourtPeriodName) :
    let previous := previousCourtPeriodBounds court now name
    ReadsMidnight court previous.start ∧
      previous.start ≤ previous.end_ ∧
      previous.end_ < (courtPeriodBounds court now name).start ∧
      ShowsOrNextHour court
        (atTimeOf court (comparisonDate (court.date now) name) now)
        previous.end_ := by
  have ordered := previousBounds_ordered follows since name
  have valid := court.date_valid now
  refine ⟨?_, ordered.1, ordered.2, ?_⟩
  · rw [previousStart_eq]
    exact (start_le_now follows (since_shiftCourtYear follows since) name).2.2
  · rw [previousEnd_eq follows since]
    exact atTimeOf_shows follows (comparisonDate_valid valid name)
      (comparisonDate_since valid since name) now

/-- Noon on 4 July 2026, compared over the week. -/
theorem previous_periods_wellFormed_newYork :
    (previousCourtPeriodBounds newYork 1783180800000 .week).end_ <
        (courtPeriodBounds newYork 1783180800000 .week).start ∧
      ShowsOrNextHour newYork
        (atTimeOf newYork
          (comparisonDate (newYork.date 1783180800000) .week) 1783180800000)
        (previousCourtPeriodBounds newYork 1783180800000 .week).end_ :=
  (previous_periods_wellFormed newYork_follows
    (show 2009 ≤ (newYork.date 1783180800000).year by decide) .week).2.2

end PaymentPortal.Guarantees
