import PaymentPortal.Model.CourtTimeZone

/-!
# Court days tile the time line

Each court day runs from one midnight of New York to the next, and holds the
instants with its date.
-/

namespace PaymentPortal.Guarantees

open PaymentPortal.Calendar PaymentPortal.Model

/-- The clocks read 00:00:00, to the millisecond. -/
def ReadsMidnight (court : Zone) (instant : Int) : Prop :=
  let parts := partsInZone instant court
  parts.hour = 0 ∧ parts.minute = 0 ∧ parts.second = 0 ∧
    court.wall instant % msPerSecond = 0

variable {court : Zone}

theorem readsMidnight_of_wall {day instant : Int}
    (reads : court.wall instant = day * msPerDay) :
    ReadsMidnight court instant := by
  simp only [ReadsMidnight, partsInZone, reads]
  unfold msPerDay msPerHour msPerMinute msPerSecond
  omega

theorem since_of_valid {date : CourtDayParts} (valid : date.Valid)
    (since : 2007 ≤ date.year) : firstDay 2007 ≤ date.toDay :=
  Int.le_trans (firstDay_mono since) valid.inYear.1

theorem courtDayBounds_eq_forDate {now : Int}
    (era : 1 ≤ (court.date now).year) :
    courtDayBounds court now =
      courtDayBoundsForDate court (court.date now) := by
  have same := partsInZone_toDate era
  simp only [courtDayBounds, courtDayBoundsForDate, same]

/-- The bounds of a date are the midnights that open it and the next date. -/
theorem courtDayBoundsForDate_eq (follows : FollowsNewYork court)
    {date : CourtDayParts} (valid : date.Valid) (since : 2007 ≤ date.year) :
    courtDayBoundsForDate court date =
      { start := court.settle (date.toDay * msPerDay)
        end_ := court.settle ((date.toDay + 1) * msPerDay) } := by
  have from2007 := since_of_valid valid since
  have century : 100 ≤ date.year := by omega
  have nextDay : utcParts (dateUTC date.year (date.month - 1) (date.day + 1)) =
      date.next := by
    rw [dateUTC_midnight _ _ century, utcParts_midnight, Date.toDay_add]
    rfl
  have nextCentury : 2007 ≤ date.next.year :=
    le_yearOfDay (Int.le_trans from2007 (by omega))
  simp only [courtDayBoundsForDate, nextDay]
  rw [follows.startOfZoneDay_eq century from2007,
    follows.startOfZoneDay_eq (by omega)
      (by rw [Date.toDay_next]; omega), Date.toDay_next]

/-- The bounds of a date hold the instants with that date. -/
theorem mem_courtDayBoundsForDate (follows : FollowsNewYork court)
    {date : CourtDayParts} (valid : date.Valid) (since : 2007 ≤ date.year)
    (instant : Int) :
    ((courtDayBoundsForDate court date).start ≤ instant ∧
        instant < (courtDayBoundsForDate court date).end_) ↔
      court.date instant = date := by
  have from2007 := since_of_valid valid since
  rw [courtDayBoundsForDate_eq follows valid since, Zone.date_eq_iff valid]
  exact (follows.passes_midnight from2007).between
    (follows.passes_midnight (by omega)) instant

/-- The court day of an instant holds it, and opens and closes at midnight. -/
theorem mem_courtDayBounds (follows : FollowsNewYork court) {now : Int}
    (since : 2007 ≤ (court.date now).year) :
    ((courtDayBounds court now).start ≤ now ∧
        now < (courtDayBounds court now).end_) ∧
      ReadsMidnight court (courtDayBounds court now).start ∧
      ReadsMidnight court (courtDayBounds court now).end_ := by
  have valid := court.date_valid now
  have from2007 := since_of_valid valid since
  rw [courtDayBounds_eq_forDate (by omega)]
  refine ⟨(mem_courtDayBoundsForDate follows valid since now).mpr rfl, ?_⟩
  rw [courtDayBoundsForDate_eq follows valid since]
  exact ⟨readsMidnight_of_wall (follows.wall_midnight from2007),
    readsMidnight_of_wall (follows.wall_midnight (by omega))⟩

/-- A court day lasts 23, 24 or 25 hours: the offsets at its two midnights are an
hour apart at most. -/
theorem length_courtDayBoundsForDate (follows : FollowsNewYork court)
    {date : CourtDayParts} (valid : date.Valid) (since : 2007 ≤ date.year) :
    let bounds := courtDayBoundsForDate court date
    bounds.end_ - bounds.start = 23 * msPerHour ∨
      bounds.end_ - bounds.start = 24 * msPerHour ∨
      bounds.end_ - bounds.start = 25 * msPerHour := by
  have from2007 := since_of_valid valid since
  have opened := follows.offset_cases from2007
  have closed := follows.offset_cases
    (Int.le_trans from2007 (Int.le_add_one (Int.le_refl _)))
  rw [courtDayBoundsForDate_eq follows valid since]
  rw [follows.settle_midnight from2007, follows.settle_midnight (by omega)]
  simp only [msPerDay, msPerHour] at *
  omega

/-- Court days tile the time line: every instant lies in its court day, which
opens and closes at midnight; the bounds of a date hold the instants with that
date and end where those of the next date start, 23, 24 or 25 hours later. -/
theorem courtDays_tile (follows : FollowsNewYork court) :
    (∀ now, 2007 ≤ (court.date now).year →
      ((courtDayBounds court now).start ≤ now ∧
          now < (courtDayBounds court now).end_) ∧
        ReadsMidnight court (courtDayBounds court now).start ∧
        ReadsMidnight court (courtDayBounds court now).end_) ∧
      ∀ date : CourtDayParts, date.Valid → 2007 ≤ date.year →
        let bounds := courtDayBoundsForDate court date
        (∀ instant, (bounds.start ≤ instant ∧ instant < bounds.end_) ↔
            court.date instant = date) ∧
          bounds.end_ = (courtDayBoundsForDate court date.next).start ∧
          (bounds.end_ - bounds.start = 23 * msPerHour ∨
            bounds.end_ - bounds.start = 24 * msPerHour ∨
            bounds.end_ - bounds.start = 25 * msPerHour) := by
  refine ⟨fun now since => mem_courtDayBounds follows since,
    fun date valid since => ⟨mem_courtDayBoundsForDate follows valid since, ?_,
      length_courtDayBoundsForDate follows valid since⟩⟩
  have from2007 := since_of_valid valid since
  have nextSince : 2007 ≤ date.next.year :=
    le_yearOfDay (Int.le_trans from2007 (by omega))
  rw [courtDayBoundsForDate_eq follows valid since,
    courtDayBoundsForDate_eq follows date.next_valid nextSince,
    Date.toDay_next]

/-- The day that ends summer time in 2026, by noon and by its date. -/
theorem courtDays_tile_newYork :
    ((courtDayBounds newYork 1793552400000).start ≤ 1793552400000 ∧
        1793552400000 < (courtDayBounds newYork 1793552400000).end_) ∧
      (courtDayBoundsForDate newYork ⟨2026, 11, 1⟩).end_ =
        (courtDayBoundsForDate newYork (Date.next ⟨2026, 11, 1⟩)).start :=
  ⟨((courtDays_tile newYork_follows).1 1793552400000 (by decide)).1,
    ((courtDays_tile newYork_follows).2 ⟨2026, 11, 1⟩ (by decide)
      (by decide)).2.1⟩

end PaymentPortal.Guarantees
