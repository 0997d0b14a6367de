import PaymentPortal.Model.CourtDayBounds

/-!
# The time zone of the Court

What the formatter is relied on for: since 2007 New York keeps summer time from
the second Sunday of March to the first Sunday of November, and before that its
clocks were four to five hours behind universal time.  Under that rule the
functions of `courtDayBounds.ts` convert by a guess and its correction.
-/

namespace PaymentPortal.Model

open PaymentPortal.Calendar

/-! ## The rule -/

/-- 07:00Z on the second Sunday of March. -/
def springForward (year : Int) : Int :=
  nthSunday 2 year 3 * msPerDay + 7 * msPerHour

/-- 06:00Z on the first Sunday of November. -/
def fallBack (year : Int) : Int :=
  nthSunday 1 year 11 * msPerDay + 6 * msPerHour

def newYorkOffset (instant : Int) : Int :=
  let year := yearOfDay (instant / msPerDay)
  if springForward year ≤ instant ∧ instant < fallBack year then -4 * msPerHour
  else -5 * msPerHour

/-- The zone that has always followed the rule. -/
def newYork : Zone := ⟨newYorkOffset⟩

/-- The zone of `America/New_York`. -/
structure FollowsNewYork (court : Zone) : Prop where
  from2007 : ∀ instant, firstDay 2007 * msPerDay ≤ instant →
    court.offset instant = newYorkOffset instant
  earlier : ∀ instant, instant < firstDay 2007 * msPerDay →
    -5 * msPerHour ≤ court.offset instant ∧
      court.offset instant ≤ -4 * msPerHour

theorem newYorkOffset_cases (instant : Int) :
    newYorkOffset instant = -5 * msPerHour ∨
      newYorkOffset instant = -4 * msPerHour := by
  unfold newYorkOffset
  dsimp only
  split <;> simp

theorem newYork_follows : FollowsNewYork newYork where
  from2007 := fun _ _ => rfl
  earlier := fun instant _ => by
    have := newYorkOffset_cases instant
    simp only [newYork, msPerHour] at *
    omega

theorem springForward_range (year : Int) :
    (firstDay year + 66) * msPerDay ≤ springForward year ∧
      springForward year < (firstDay year + 75) * msPerDay := by
  have range := nthSunday_range 2 year 3
  have leap := leapDay_cases year
  have month : daysBefore (leapDay year) 3 = 59 + leapDay year := rfl
  rw [Date.toDay_eq 1 (by decide) (by decide), month] at range
  simp only [springForward, msPerDay, msPerHour]
  omega

theorem fallBack_range (year : Int) :
    (firstDay year + 304) * msPerDay ≤ fallBack year ∧
      fallBack year < (firstDay year + 313) * msPerDay := by
  have range := nthSunday_range 1 year 11
  have leap := leapDay_cases year
  have month : daysBefore (leapDay year) 11 = 304 + leapDay year := rfl
  rw [Date.toDay_eq 1 (by decide) (by decide), month] at range
  simp only [fallBack, msPerDay, msPerHour]
  omega

namespace FollowsNewYork

variable {court : Zone} (follows : FollowsNewYork court)
include follows

theorem bounded (instant : Int) :
    -5 * msPerHour ≤ court.offset instant ∧
      court.offset instant ≤ -4 * msPerHour := by
  by_cases rule : firstDay 2007 * msPerDay ≤ instant
  · rw [follows.from2007 instant rule]
    have := newYorkOffset_cases instant
    unfold msPerHour at *
    omega
  · exact follows.earlier instant (by omega)

/-- Around a day the clocks follow the transitions of its year: those of the
years before and after are months away. -/
theorem keepsSummerTime (day : Int) (since : firstDay 2007 ≤ day) :
    court.KeepsSummerTime (-5 * msPerHour) (springForward (yearOfDay day))
      (fallBack (yearOfDay day)) (day * msPerDay)
      ((day + 1) * msPerDay + 12 * msPerHour) := by
  have spring := springForward_range (yearOfDay day)
  have autumn := fallBack_range (yearOfDay day)
  refine ⟨fun instant lower upper => ?_, by unfold msPerDay at *; omega⟩
  rw [follows.from2007 instant (by unfold msPerDay at *; omega)]
  obtain ⟨opened, open_⟩ := yearOfDay_spec day
  have sameOrNext : yearOfDay (instant / msPerDay) = yearOfDay day ∨
      yearOfDay (instant / msPerDay) = yearOfDay day + 1 ∧
        firstDay (yearOfDay day + 1) * msPerDay ≤ instant := by
    by_cases sameYear : instant / msPerDay < firstDay (yearOfDay day + 1)
    · exact .inl (yearOfDay_eq (by unfold msPerDay at *; omega) sameYear)
    · have := firstDay_succ (yearOfDay day + 1)
      have := leapDay_cases (yearOfDay day + 1)
      refine .inr ⟨yearOfDay_eq (by omega) ?_, ?_⟩ <;>
        unfold msPerDay msPerHour at * <;> omega
  rcases sameOrNext with same | ⟨next, newYear⟩
  · simp only [newYorkOffset, same]
    unfold msPerHour
    split <;> rfl
  · have later := springForward_range (yearOfDay day + 1)
    have := firstDay_succ (yearOfDay day)
    have := leapDay_cases (yearOfDay day)
    simp only [newYorkOffset, next]
    rw [if_neg, if_neg] <;> unfold msPerDay msPerHour at * <;> omega

/-- No transition falls into the first hours of a universal day. -/
theorem steady {day instant : Int} (since : firstDay 2007 ≤ day)
    (lower : day * msPerDay ≤ instant)
    (upper : instant ≤ day * msPerDay + 5 * msPerHour) :
    court.offset instant = court.offset (day * msPerDay) := by
  have keeps := follows.keepsSummerTime _ since
  have atMidnight := keeps.cases _ (Int.le_refl _)
    (by unfold msPerDay msPerHour; omega)
  have atInstant := keeps.cases instant lower
    (by unfold msPerDay msPerHour at *; omega)
  unfold springForward fallBack msPerDay msPerHour at *
  omega

theorem settle_midnight {day : Int} (since : firstDay 2007 ≤ day) :
    court.settle (day * msPerDay) =
      day * msPerDay - court.offset (day * msPerDay) := by
  have within := follows.bounded (day * msPerDay)
  exact Zone.settle_of_steady rfl (follows.steady since
    (by unfold msPerHour at *; omega) (by unfold msPerHour at *; omega))

/-- The clocks pass every midnight once, where it is settled. -/
theorem passes_midnight {day : Int} (since : firstDay 2007 ≤ day) :
    court.Passes (day * msPerDay) (court.settle (day * msPerDay)) := by
  rw [follows.settle_midnight since]
  refine Zone.passes_of_steady follows.bounded (follows.bounded _)
    fun other lower upper => follows.steady since ?_ ?_ <;>
  · unfold msPerHour at *
    omega

theorem wall_midnight {day : Int} (since : firstDay 2007 ≤ day) :
    court.wall (court.settle (day * msPerDay)) = day * msPerDay := by
  have within := follows.bounded (day * msPerDay)
  have settled : court.offset (court.settle (day * msPerDay)) =
      court.offset (day * msPerDay) := by
    rw [follows.settle_midnight since]
    exact follows.steady since (by unfold msPerHour at *; omega)
      (by unfold msPerHour at *; omega)
  rw [Zone.wall, settled, follows.settle_midnight since]
  omega

theorem offset_cases {day : Int} (since : firstDay 2007 ≤ day) :
    court.offset (day * msPerDay) = -5 * msPerHour ∨
      court.offset (day * msPerDay) = -4 * msPerHour := by
  rw [follows.from2007 _ (by unfold msPerDay; omega)]
  exact newYorkOffset_cases _

theorem seconds (instant : Int) (since : firstDay 2007 * msPerDay ≤ instant) :
    court.offset instant % msPerSecond = 0 := by
  rw [follows.from2007 instant since]
  have := newYorkOffset_cases instant
  unfold msPerHour msPerSecond at *
  omega

/-- Transitions fall on whole seconds. -/
theorem offset_second (instant : Int)
    (since : firstDay 2007 * msPerDay ≤ instant) :
    court.offset (instant / msPerSecond * msPerSecond) =
      court.offset instant := by
  have keeps := follows.keepsSummerTime (instant / msPerDay)
    (by unfold msPerDay at *; omega)
  have atSecond := keeps.cases (instant / msPerSecond * msPerSecond)
    (by unfold msPerDay msPerSecond; omega)
    (by unfold msPerDay msPerHour msPerSecond; omega)
  have atInstant := keeps.cases instant
    (by unfold msPerDay; omega) (by unfold msPerDay msPerHour; omega)
  unfold springForward fallBack msPerDay msPerHour msPerSecond at *
  omega

theorem year_of_since {instant : Int}
    (since : firstDay 2007 * msPerDay ≤ instant) :
    2006 ≤ (court.date instant).year := by
  have within := follows.bounded instant
  have lastDay : firstDay 2006 ≤ court.wall instant / msPerDay := by
    have : firstDay 2007 = firstDay 2006 + 365 := rfl
    unfold Zone.wall msPerHour msPerDay at *
    omega
  exact le_yearOfDay lastDay

end FollowsNewYork

/-! ## Readings -/

/-- The reading that a date and a time of day name. -/
def ZonedDateTime.reading (value : ZonedDateTime) : Int :=
  value.toDay * msPerDay + value.hour * msPerHour +
    value.minute * msPerMinute + value.second * msPerSecond

theorem dateUTC_eq {year : Int} (month day hour minute second : Int)
    (century : 100 ≤ year) :
    dateUTC year (month - 1) day hour minute second =
      Date.toDay ⟨year, month, day⟩ * msPerDay + hour * msPerHour +
        minute * msPerMinute + second * msPerSecond := by
  rw [dateUTC, if_neg (by omega), Int.sub_add_cancel]

/-- `Date.UTC` of a date alone is its midnight. -/
theorem dateUTC_midnight {year : Int} (month day : Int)
    (century : 100 ≤ year) :
    dateUTC year (month - 1) day =
      Date.toDay ⟨year, month, day⟩ * msPerDay := by
  rw [dateUTC_eq _ _ _ _ _ century]
  simp

theorem utcParts_midnight (day : Int) :
    utcParts (day * msPerDay) = Date.ofDay day := by
  have : day * msPerDay / msPerDay = day := by
    unfold msPerDay
    omega
  rw [utcParts, this]

theorem courtWeekday_eq {date : CourtDayParts} (century : 100 ≤ date.year) :
    courtWeekday date = weekday date.toDay := by
  rw [courtWeekday, dateUTC_midnight _ _ century]
  exact congrArg weekday (Int.mul_ediv_cancel _ (by decide))

theorem partsInZone_toDate {zone : Zone} {instant : Int}
    (era : 1 ≤ (zone.date instant).year) :
    (partsInZone instant zone).toDate = zone.date instant := by
  rw [Zone.date] at *
  simp only [partsInZone]
  rw [if_neg (by omega)]

theorem partsInZone_reading {zone : Zone} {instant : Int}
    (era : 1 ≤ (zone.date instant).year) :
    (partsInZone instant zone).reading =
      zone.wall instant / msPerSecond * msPerSecond := by
  rw [ZonedDateTime.reading, partsInZone_toDate era, Zone.date,
    Date.toDay_ofDay]
  simp only [partsInZone, msPerDay, msPerHour, msPerMinute, msPerSecond]
  omega

/-- A time of day, in its ranges. -/
structure ZonedDateTime.OfDay (value : ZonedDateTime) : Prop where
  hour : 0 ≤ value.hour ∧ value.hour < 24
  minute : 0 ≤ value.minute ∧ value.minute < 60
  second : 0 ≤ value.second ∧ value.second < 60

theorem ZonedDateTime.OfDay.within {value : ZonedDateTime}
    (ofDay : value.OfDay) :
    value.toDay * msPerDay ≤ value.reading ∧
      value.reading < (value.toDay + 1) * msPerDay := by
  obtain ⟨hour, minute, second⟩ := ofDay
  unfold ZonedDateTime.reading msPerDay msPerHour msPerMinute msPerSecond
  omega

/-- Formatting undoes the naming of a reading. -/
theorem partsInZone_of_reading {zone : Zone} {instant : Int}
    {value : ZonedDateTime} (valid : value.toDate.Valid) (ofDay : value.OfDay)
    (reads : zone.wall instant / msPerSecond * msPerSecond = value.reading) :
    zone.date instant = value.toDate ∧
      (partsInZone instant zone).hour = value.hour ∧
      (partsInZone instant zone).minute = value.minute ∧
      (partsInZone instant zone).second = value.second := by
  obtain ⟨hour, minute, second⟩ := ofDay
  rw [Zone.date_eq_iff valid]
  simp only [partsInZone, ZonedDateTime.reading] at *
  unfold msPerDay msPerHour msPerMinute msPerSecond at *
  omega

theorem zoneOffsetMs_eq {zone : Zone} {instant : Int}
    (century : 100 ≤ (zone.date instant).year)
    (seconds : zone.offset instant % msPerSecond = 0) :
    zoneOffsetMs instant zone = zone.offset instant := by
  have era : 1 ≤ (zone.date instant).year := by omega
  have same := partsInZone_toDate era
  have reading := partsInZone_reading era
  unfold zoneOffsetMs
  dsimp only
  rw [dateUTC_eq _ _ _ _ _ (by rw [same]; exact century)]
  rw [ZonedDateTime.reading] at reading
  rw [reading, Zone.wall]
  unfold msPerSecond at *
  omega

namespace FollowsNewYork

variable {court : Zone} (follows : FollowsNewYork court)
include follows

theorem zoneOffsetMs_eq {instant : Int}
    (since : firstDay 2007 * msPerDay ≤ instant) :
    zoneOffsetMs instant court = court.offset instant := by
  have year := follows.year_of_since since
  exact Model.zoneOffsetMs_eq (by omega) (follows.seconds instant since)

theorem since_guess {reading : Int}
    (since : firstDay 2007 * msPerDay ≤ reading) :
    firstDay 2007 * msPerDay ≤ court.guess reading := by
  have := follows.bounded reading
  unfold Zone.guess msPerHour at *
  omega

theorem startOfZoneDay_eq {parts : CourtDayParts}
    (century : 100 ≤ parts.year) (since : firstDay 2007 ≤ parts.toDay) :
    startOfZoneDay parts court = court.settle (parts.toDay * msPerDay) := by
  have from2007 : firstDay 2007 * msPerDay ≤ parts.toDay * msPerDay := by
    unfold msPerDay
    omega
  simp only [startOfZoneDay, dateUTC_midnight _ _ century]
  rw [follows.zoneOffsetMs_eq from2007, ← Zone.guess,
    follows.zoneOffsetMs_eq (follows.since_guess from2007), ← Zone.settle]

theorem zonedDateTimeToUtc_eq {value : ZonedDateTime}
    (century : 100 ≤ value.year)
    (since : firstDay 2007 * msPerDay ≤ value.reading) :
    zonedDateTimeToUtc value court =
      let landed := partsInZone (court.settle value.reading) court
      if landed.hour = value.hour ∧ landed.minute = value.minute
      then court.settle value.reading else court.guess value.reading := by
  have naive : dateUTC value.year (value.month - 1) value.day
      value.hour value.minute value.second = value.reading :=
    dateUTC_eq _ _ _ _ _ century
  simp only [zonedDateTimeToUtc, naive]
  rw [follows.zoneOffsetMs_eq since, ← Zone.guess,
    follows.zoneOffsetMs_eq (follows.since_guess since), ← Zone.settle]

section Conversion

variable (value : ZonedDateTime) (century : 100 ≤ value.year)
  (ofDay : value.OfDay) (since : firstDay 2007 ≤ value.toDay)
include century ofDay since

/-- A reading that the clocks show is converted to the first instant that shows
it. -/
theorem zonedDateTimeToUtc_shown
    (shown : ¬Zone.Skipped (-5 * msPerHour)
      (springForward (yearOfDay value.toDay)) value.reading) :
    court.wall (zonedDateTimeToUtc value court) = value.reading ∧
      ∀ other, court.wall other = value.reading →
        zonedDateTimeToUtc value court ≤ other := by
  have within := ofDay.within
  have keeps := follows.keepsSummerTime _ since
  obtain ⟨reads, first⟩ := keeps.settle_shown
    (by unfold msPerHour; omega) within.1
    (by unfold msPerDay msPerHour at *; omega) shown
  have landed : (partsInZone (court.settle value.reading) court).hour =
        value.hour ∧
      (partsInZone (court.settle value.reading) court).minute =
        value.minute := by
    obtain ⟨hour, minute, second⟩ := ofDay
    simp only [partsInZone, reads]
    unfold ZonedDateTime.reading msPerDay msPerHour msPerMinute msPerSecond
    omega
  rw [follows.zonedDateTimeToUtc_eq century
    (by unfold msPerDay at *; omega)]
  dsimp only
  rw [if_pos landed]
  refine ⟨reads, fun other same => first other ?_ ?_ same⟩ <;>
  · have := follows.bounded other
    unfold Zone.wall msPerDay msPerHour at *
    omega

/-- A reading that is jumped over is converted to the instant after the jump that
reads an hour more. -/
theorem zonedDateTimeToUtc_skipped
    (skipped : Zone.Skipped (-5 * msPerHour)
      (springForward (yearOfDay value.toDay)) value.reading) :
    court.wall (zonedDateTimeToUtc value court) =
        value.reading + msPerHour ∧
      springForward (yearOfDay value.toDay) ≤
        zonedDateTimeToUtc value court ∧
      zonedDateTimeToUtc value court <
        springForward (yearOfDay value.toDay) + msPerHour := by
  have within := ofDay.within
  have keeps := follows.keepsSummerTime _ since
  obtain ⟨reads, afterJump, settled, _⟩ := keeps.settle_skipped
    (by unfold msPerHour; omega) within.1
    (by unfold msPerDay msPerHour at *; omega) skipped
  have missed : ¬((partsInZone (court.settle value.reading) court).hour =
        value.hour ∧
      (partsInZone (court.settle value.reading) court).minute =
        value.minute) := by
    obtain ⟨hour, minute, second⟩ := ofDay
    simp only [partsInZone, settled]
    unfold ZonedDateTime.reading msPerDay msPerHour msPerMinute msPerSecond
    omega
  rw [follows.zonedDateTimeToUtc_eq century
    (by unfold msPerDay at *; omega)]
  dsimp only
  rw [if_neg missed]
  exact ⟨reads, afterJump⟩

end Conversion

end FollowsNewYork

end PaymentPortal.Model
