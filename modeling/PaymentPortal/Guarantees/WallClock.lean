import PaymentPortal.Guarantees.CourtDays

/-!
# Wall-clock conversion inverts wall-clock reading

The one hour a year that the clocks read twice is converted to its first pass;
the one hour that they skip is converted to the hour after it.
-/

namespace PaymentPortal.Guarantees

open PaymentPortal.Calendar PaymentPortal.Model

variable {court : Zone}

/-- At this instant the clocks show this date and time, to the second. -/
def Shows (court : Zone) (value : ZonedDateTime) (instant : Int) : Prop :=
  court.date instant = value.toDate ∧
    (partsInZone instant court).hour = value.hour ∧
    (partsInZone instant court).minute = value.minute ∧
    (partsInZone instant court).second = value.second

/-- The clocks have read the same before. -/
def InSecondPass (court : Zone) (instant : Int) : Prop :=
  ∃ earlier, earlier < instant ∧ court.wall earlier = court.wall instant

theorem shows_iff {value : ZonedDateTime} (valid : value.toDate.Valid)
    (ofDay : value.OfDay) (instant : Int) :
    Shows court value instant ↔
      court.wall instant / msPerSecond * msPerSecond = value.reading := by
  refine ⟨fun shows_ => ?_, partsInZone_of_reading valid ofDay⟩
  obtain ⟨date, hour, minute, second⟩ := shows_
  rw [Zone.date_eq_iff valid] at date
  simp only [partsInZone, ZonedDateTime.reading] at *
  unfold msPerDay msPerHour msPerMinute msPerSecond at *
  omega

/-- What the formatter prints is a time of day. -/
theorem partsInZone_ofDay (zone : Zone) (instant : Int) :
    (partsInZone instant zone).OfDay where
  hour := by simp only [partsInZone, msPerDay, msPerHour]; omega
  minute := by simp only [partsInZone, msPerHour, msPerMinute]; omega
  second := by simp only [partsInZone, msPerMinute, msPerSecond]; omega

/-- In the years of our era the formatter prints what the clocks show. -/
theorem partsInZone_of_shows {value : ZonedDateTime} {instant : Int}
    (era : 1 ≤ value.year) (shows_ : Shows court value instant) :
    partsInZone instant court = value := by
  obtain ⟨date, hour, minute, second⟩ := shows_
  have same : (partsInZone instant court).toDate = value.toDate := by
    rw [← date] at era ⊢
    exact partsInZone_toDate era
  generalize partsInZone instant court = parts at *
  cases parts
  cases value
  simp_all

/-- Instants with the same reading show the same date and time. -/
theorem shows_partsInZone {instant other : Int}
    (era : 1 ≤ (court.date instant).year)
    (same : court.wall other = court.wall instant) :
    Shows court (partsInZone instant court) other := by
  refine ⟨?_, ?_⟩
  · rw [partsInZone_toDate era, Zone.date, Zone.date, same]
  · simp only [partsInZone, same, and_self]

/-! ## Reading and converting back -/

section Reading

variable (follows : FollowsNewYork court) {instant : Int}
  (since : 2007 ≤ (court.date instant).year)
include follows since

theorem readingDay :
    firstDay 2007 ≤ court.wall instant / msPerDay ∧
      court.wall instant / msPerDay * msPerDay ≤ instant ∧
      instant ≤ (court.wall instant / msPerDay + 1) * msPerDay +
        5 * msPerHour := by
  have valid := court.date_valid instant
  have from2007 := since_of_valid valid since
  have bounded := follows.bounded instant
  rw [Zone.toDay_date] at from2007
  unfold Zone.wall msPerDay msPerHour at *
  omega

/-- The second pass is the hour after the clocks have been put back. -/
theorem inSecondPass_iff :
    InSecondPass court instant ↔
      fallBack (court.date instant).year ≤ instant ∧
        instant < fallBack (court.date instant).year + msPerHour := by
  obtain ⟨from2007, lower, upper⟩ := readingDay follows since
  have keeps := follows.keepsSummerTime _ from2007
  change InSecondPass court instant ↔
    fallBack (yearOfDay (court.wall instant / msPerDay)) ≤ instant ∧
      instant < fallBack (yearOfDay (court.wall instant / msPerDay)) +
        msPerHour
  have apart := keeps.apart
  have atInstant := keeps.cases instant lower
    (by unfold msPerDay msPerHour at *; omega)
  constructor
  · rintro ⟨earlier, before, same⟩
    have bounded := follows.bounded earlier
    have atEarlier := keeps.cases earlier
      (by unfold Zone.wall msPerDay msPerHour at *; omega)
      (by unfold msPerDay msPerHour at *; omega)
    unfold Zone.wall msPerDay msPerHour at *
    omega
  · rintro ⟨putBack, hour⟩
    have atEarlier := keeps.cases (instant - msPerHour)
      (by unfold Zone.wall msPerDay msPerHour at *; omega)
      (by unfold msPerDay msPerHour at *; omega)
    refine ⟨instant - msPerHour, ?_, ?_⟩ <;>
    · unfold Zone.wall msPerDay msPerHour at *
      omega

/-- Reading the clocks and converting back finds the first instant with the
reading. -/
theorem zonedDateTimeToUtc_partsInZone (whole : instant % msPerSecond = 0) :
    let converted := zonedDateTimeToUtc (partsInZone instant court) court
    court.wall converted = court.wall instant ∧
      ∀ other, court.wall other = court.wall instant → converted ≤ other := by
  obtain ⟨from2007, lower, upper⟩ := readingDay follows since
  have era : 1 ≤ (court.date instant).year := by omega
  have sameDate := partsInZone_toDate era
  have sameDay : (partsInZone instant court).toDay =
      court.wall instant / msPerDay := by
    rw [sameDate, Zone.toDay_date]
  have reading : (partsInZone instant court).reading =
      court.wall instant := by
    rw [partsInZone_reading era]
    have := follows.seconds instant (by unfold msPerDay at *; omega)
    unfold Zone.wall msPerSecond at *
    omega
  have shown : ¬Zone.Skipped (-5 * msPerHour)
      (springForward (yearOfDay (partsInZone instant court).toDay))
      (partsInZone instant court).reading := by
    rw [sameDay, reading]
    intro skipped
    have keeps := follows.keepsSummerTime _ from2007
    have never := (keeps.settle_skipped (by unfold msPerHour; omega)
      (by unfold msPerDay; omega) (by unfold msPerDay msPerHour; omega)
      skipped).2.2.2
    exact never instant lower (by unfold msPerHour at *; omega) rfl
  have converted := follows.zonedDateTimeToUtc_shown
    (partsInZone instant court) (by rw [sameDate]; omega)
    (partsInZone_ofDay court instant)
    (by rw [sameDay]; exact from2007) shown
  rw [reading] at converted
  exact converted

/-- An instant that shows the reading of a whole second does so from its own
whole second on. -/
theorem wall_of_shows (whole : instant % msPerSecond = 0) {other : Int}
    (shows_ : Shows court (partsInZone instant court) other) :
    court.wall (other / msPerSecond * msPerSecond) = court.wall instant := by
  have era : 1 ≤ (court.date instant).year := by omega
  have sameDate := partsInZone_toDate era
  have otherSince : 2007 ≤ (court.date other).year := by
    rw [shows_.1, sameDate]
    exact since
  have valid : (partsInZone instant court).toDate.Valid := by
    rw [sameDate]
    exact court.date_valid instant
  rw [shows_iff valid (partsInZone_ofDay court instant),
    partsInZone_reading era] at shows_
  have lower := readingDay follows since
  have otherLower := readingDay follows otherSince
  have second := follows.offset_second other (by unfold msPerDay at *; omega)
  have seconds := follows.seconds instant (by unfold msPerDay at *; omega)
  have otherSeconds := follows.seconds other (by unfold msPerDay at *; omega)
  rw [Zone.wall, second]
  unfold Zone.wall msPerSecond at *
  omega

end Reading

/-! ## Readings that are jumped over -/

section Jump

variable (follows : FollowsNewYork court) {value : ZonedDateTime}
  (valid : value.toDate.Valid) (ofDay : value.OfDay) (since : 2007 ≤ value.year)
include follows valid ofDay since

/-- Outside the hour that is jumped over, a date and time is converted to an
instant that shows it. -/
theorem shows_converted
    (shown : ¬Zone.Skipped (-5 * msPerHour) (springForward value.year)
      value.reading) :
    Shows court value (zonedDateTimeToUtc value court) := by
  have from2007 := since_of_valid valid since
  have year : yearOfDay value.toDay = value.year :=
    congrArg Date.year (Date.ofDay_toDay valid)
  rw [← year] at shown
  have reads := (follows.zonedDateTimeToUtc_shown value (by omega) ofDay
    from2007 shown).1
  rw [shows_iff valid ofDay, reads]
  unfold ZonedDateTime.reading msPerDay msPerHour msPerMinute msPerSecond
  omega

/-- The dates and times that no instant shows are those of the hour that is
jumped over in spring. -/
theorem unshown_iff :
    (∀ instant, ¬Shows court value instant) ↔
      Zone.Skipped (-5 * msPerHour) (springForward value.year)
        value.reading := by
  have from2007 := since_of_valid valid since
  have year : yearOfDay value.toDay = value.year :=
    congrArg Date.year (Date.ofDay_toDay valid)
  have within := ofDay.within
  constructor
  · intro unshown
    by_contra shown
    exact unshown _ (shows_converted follows valid ofDay since shown)
  · intro skipped instant shows_
    rw [shows_iff valid ofDay] at shows_
    have keeps := follows.keepsSummerTime _ from2007
    rw [year] at keeps
    have bounded := follows.bounded instant
    -- the gap is whole seconds, so every reading of the second is in it
    have gap : Zone.Skipped (-5 * msPerHour) (springForward value.year)
        (court.wall instant) := by
      unfold Zone.Skipped springForward ZonedDateTime.reading msPerDay
        msPerHour msPerMinute msPerSecond at *
      omega
    have never := (keeps.settle_skipped
      (by unfold msPerHour; omega)
      (by unfold msPerSecond at *; omega)
      (by unfold msPerDay msPerHour msPerSecond at *; omega) gap).2.2.2
    refine never instant ?_ ?_ rfl <;>
    · unfold Zone.wall msPerDay msPerHour msPerSecond at *
      omega

/-- A date and time that no instant shows is converted to the instant after the
jump that shows the next hour. -/
theorem shows_nextHour (unshown : ∀ instant, ¬Shows court value instant) :
    let converted := zonedDateTimeToUtc value court
    Shows court { value with hour := value.hour + 1 } converted ∧
      springForward value.year ≤ converted ∧
      converted < springForward value.year + msPerHour := by
  have from2007 := since_of_valid valid since
  have year : yearOfDay value.toDay = value.year :=
    congrArg Date.year (Date.ofDay_toDay valid)
  have skipped := (unshown_iff follows valid ofDay since).mp unshown
  have converted := follows.zonedDateTimeToUtc_skipped value (by omega) ofDay
    from2007 (by rw [year]; exact skipped)
  rw [year] at converted
  have sameDate :
      ({ value with hour := value.hour + 1 } : ZonedDateTime).toDate.Valid :=
    valid
  have later : ({ value with hour := value.hour + 1 } : ZonedDateTime).OfDay :=
    { hour := by
        obtain ⟨hour, minute, second⟩ := ofDay
        unfold Zone.Skipped springForward ZonedDateTime.reading msPerDay
          msPerHour msPerMinute msPerSecond at skipped
        simp only
        omega
      minute := ofDay.minute
      second := ofDay.second }
  refine ⟨(shows_iff sameDate later _).mpr ?_, converted.2⟩
  rw [converted.1]
  unfold ZonedDateTime.reading msPerDay msPerHour msPerMinute msPerSecond
  simp only
  omega

end Jump

/-- Wall-clock conversion inverts wall-clock reading on whole seconds; a reading
of the second pass is converted to its first occurrence, and a date and time
that the clocks skip to the instant after the jump that shows the next hour. -/
theorem conversion_inverts_reading (follows : FollowsNewYork court) :
    (∀ instant, 2007 ≤ (court.date instant).year →
      instant % msPerSecond = 0 →
      let read := partsInZone instant court
      let converted := zonedDateTimeToUtc read court
      (¬InSecondPass court instant → converted = instant) ∧
        (InSecondPass court instant →
          Shows court read converted ∧
            ∀ other, Shows court read other → converted ≤ other)) ∧
      ∀ value : ZonedDateTime, value.toDate.Valid → value.OfDay →
        2007 ≤ value.year → (∀ instant, ¬Shows court value instant) →
        let converted := zonedDateTimeToUtc value court
        partsInZone converted court = { value with hour := value.hour + 1 } ∧
          springForward value.year ≤ converted ∧
          converted < springForward value.year + msPerHour := by
  refine ⟨fun instant since whole => ⟨fun firstPass => ?_, fun _ => ?_⟩,
    fun value valid ofDay since unshown => ?_⟩
  · obtain ⟨reads, first⟩ :=
      zonedDateTimeToUtc_partsInZone follows since whole
    rcases Int.lt_or_eq_of_le (first instant rfl) with earlier | same
    · exact absurd ⟨_, earlier, reads⟩ firstPass
    · exact same
  · obtain ⟨reads, first⟩ :=
      zonedDateTimeToUtc_partsInZone follows since whole
    refine ⟨shows_partsInZone (by omega) reads, fun other shows_ => ?_⟩
    have notAfter := first _ (wall_of_shows follows since whole shows_)
    unfold msPerSecond at notAfter
    omega
  · obtain ⟨nextHour, afterJump⟩ :=
      shows_nextHour follows valid ofDay since unshown
    exact ⟨partsInZone_of_shows (by simp only; omega) nextHour, afterJump⟩

/-- Noon on 4 July 2026, the second pass on 1 November 2026 and 02:30 on
8 March 2026. -/
theorem conversion_inverts_reading_newYork :
    zonedDateTimeToUtc (partsInZone 1783180800000 newYork) newYork =
        1783180800000 ∧
      Shows newYork (partsInZone 1793514600000 newYork)
        (zonedDateTimeToUtc (partsInZone 1793514600000 newYork) newYork) ∧
      partsInZone
          (zonedDateTimeToUtc ⟨⟨2026, 3, 8⟩, 2, 30, 0⟩ newYork) newYork =
        ⟨⟨2026, 3, 8⟩, 3, 30, 0⟩ :=
  ⟨((conversion_inverts_reading newYork_follows).1 1783180800000 (by decide)
      (by decide)).1 (by
        rw [inSecondPass_iff newYork_follows (by decide)]
        decide),
    (((conversion_inverts_reading newYork_follows).1 1793514600000 (by decide)
      (by decide)).2 (by
        rw [inSecondPass_iff newYork_follows (by decide)]
        decide)).1,
    ((conversion_inverts_reading newYork_follows).2 ⟨⟨2026, 3, 8⟩, 2, 30, 0⟩
      (by decide) ⟨by decide, by decide, by decide⟩ (by decide) (by
        rw [unshown_iff newYork_follows (by decide)
          ⟨by decide, by decide, by decide⟩ (by decide)]
        unfold Zone.Skipped
        decide)).1⟩

end PaymentPortal.Guarantees
