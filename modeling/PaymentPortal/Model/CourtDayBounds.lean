import PaymentPortal.Calendar.Zone
import PaymentPortal.Model.Reporting

/-!
# Court days

`courtDayBounds.ts`.  A `Date` is its count of milliseconds, unbounded; a time
zone stands for what `Intl.DateTimeFormat` formats with, and `court` for the
zone of `COURT_TIME_ZONE`.  The formatter always prints the six parts it is
asked for, so the throw of `partsInZone` is left out.
-/

namespace PaymentPortal.Model

open PaymentPortal.Calendar

/-! ## Dates and their parts -/

/-- `CourtDayParts`. -/
abbrev CourtDayParts := Calendar.Date

/-- `ZonedDateTime`, also what `partsInZone` returns. -/
structure ZonedDateTime extends CourtDayParts where
  hour : Int
  minute : Int
  second : Int
  deriving DecidableEq, Repr

/-- `Date.UTC`, with the month counted from zero.  A year from 0 to 99 is one of
the twentieth century. -/
def dateUTC (year month day : Int) (hour minute second : Int := 0) : Int :=
  let fullYear := if 0 ≤ year ∧ year ≤ 99 then 1900 + year else year
  Date.toDay ⟨fullYear, month + 1, day⟩ * msPerDay + hour * msPerHour +
    minute * msPerMinute + second * msPerSecond

/-- `getUTCFullYear`, `getUTCMonth` plus one and `getUTCDate`. -/
def utcParts (instant : Int) : CourtDayParts :=
  Date.ofDay (instant / msPerDay)

/-- `partsInZone`.  The `numeric` year is the year of its era. -/
def partsInZone (instant : Int) (timeZone : Zone) : ZonedDateTime :=
  let reading := timeZone.wall instant
  let date := Date.ofDay (reading / msPerDay)
  { year := if date.year ≤ 0 then 1 - date.year else date.year
    month := date.month
    day := date.day
    hour := reading % msPerDay / msPerHour
    minute := reading % msPerHour / msPerMinute
    second := reading % msPerMinute / msPerSecond }

/-- `courtWeekday`, with `getUTCDay`. -/
def courtWeekday (parts : CourtDayParts) : Int :=
  weekday (dateUTC parts.year (parts.month - 1) parts.day / msPerDay)

/-- `zoneOffsetMs`. -/
def zoneOffsetMs (instant : Int) (timeZone : Zone) : Int :=
  let p := partsInZone instant timeZone
  let asIfUtc := dateUTC p.year (p.month - 1) p.day p.hour p.minute p.second
  asIfUtc - instant / 1000 * 1000

/-- `startOfZoneDay`. -/
def startOfZoneDay (parts : CourtDayParts) (timeZone : Zone) : Int :=
  let naive := dateUTC parts.year (parts.month - 1) parts.day
  -- The second pass settles the days of a transition.
  let first := naive - zoneOffsetMs naive timeZone
  naive - zoneOffsetMs first timeZone

/-- `zonedDateTimeToUtc`. -/
def zonedDateTimeToUtc (value : ZonedDateTime) (timeZone : Zone) : Int :=
  let naive := dateUTC value.year (value.month - 1) value.day
    value.hour value.minute value.second
  let first := naive - zoneOffsetMs naive timeZone
  let resolved := naive - zoneOffsetMs first timeZone
  -- A time inside the gap of spring never happened: land after the jump.
  let landed := partsInZone resolved timeZone
  let exists_ := landed.hour = value.hour ∧ landed.minute = value.minute
  if exists_ then resolved else first

/-- `shiftCourtYear`. -/
def shiftCourtYear (court : Zone) (instant yearDelta : Int) : Int :=
  let parts := partsInZone instant court
  let targetYear := parts.year + yearDelta
  let targetDay :=
    if parts.month = 2 ∧ parts.day = 29 ∧
        ¬(targetYear % 4 = 0 ∧
          (targetYear % 100 ≠ 0 ∨ targetYear % 400 = 0)) then 28
    else parts.day
  zonedDateTimeToUtc
    { year := targetYear
      month := parts.month
      day := targetDay
      hour := parts.hour
      minute := parts.minute
      second := parts.second } court

/-! ## Days -/

/-- `courtDayBoundsForDate`. -/
def courtDayBoundsForDate (court : Zone) (day : CourtDayParts) : Bounds :=
  let nextDay := utcParts (dateUTC day.year (day.month - 1) (day.day + 1))
  { start := startOfZoneDay day court
    end_ := startOfZoneDay nextDay court }

/-- `courtDayBounds`. -/
def courtDayBounds (court : Zone) (now : Int) : Bounds :=
  let today := partsInZone now court
  let tomorrow := utcParts
    (dateUTC today.year (today.month - 1) (today.day + 1))
  { start := startOfZoneDay today.toDate court
    end_ := startOfZoneDay tomorrow court }

/-! ## Reporting periods -/

def FISCAL_YEAR_START_MONTH : Int := 10

/-- `courtPeriodBounds`: every period runs to date. -/
def courtPeriodBounds (court : Zone) (now : Int) : CourtPeriodRecord Bounds :=
  let parts := partsInZone now court
  let weekday := courtWeekday parts.toDate
  let quarterStartMonth := parts.month - (parts.month - 1) % 3
  let fiscalYear :=
    if parts.month ≥ FISCAL_YEAR_START_MONTH then parts.year
    else parts.year - 1
  -- A Sunday in the month or the year before is left to `Date.UTC`.
  let openingAt := fun (opening : CourtDayParts) =>
    ({ start := startOfZoneDay opening court, end_ := now } : Bounds)
  fun
    | .day => openingAt ⟨parts.year, parts.month, parts.day⟩
    | .week => openingAt ⟨parts.year, parts.month, parts.day - weekday⟩
    | .month => openingAt ⟨parts.year, parts.month, 1⟩
    | .quarter => openingAt ⟨parts.year, quarterStartMonth, 1⟩
    | .fiscalYear => openingAt ⟨fiscalYear, FISCAL_YEAR_START_MONTH, 1⟩

/-- `previousCourtPeriodBounds`. -/
def previousCourtPeriodBounds (court : Zone) (now : Int) :
    CourtPeriodRecord Bounds :=
  let shiftedNow := shiftCourtYear court now (-1)
  let previousPeriods := courtPeriodBounds court shiftedNow
  let shiftedWeek := previousPeriods .week
  let nowParts := partsInZone now court
  let weekday := courtWeekday nowParts.toDate
  let shiftedWeekStart := partsInZone shiftedWeek.start court
  fun
    | .week =>
      { start := shiftedWeek.start
        end_ := zonedDateTimeToUtc
          { year := shiftedWeekStart.year
            month := shiftedWeekStart.month
            day := shiftedWeekStart.day + weekday
            hour := nowParts.hour
            minute := nowParts.minute
            second := nowParts.second } court }
    | name => previousPeriods name

end PaymentPortal.Model
