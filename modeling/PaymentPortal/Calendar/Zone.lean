import PaymentPortal.Calendar.Gregorian

/-!
# Clocks of a time zone

A zone says how far its clocks are ahead of universal time at every instant.  A
reading that the clocks reach once and for all cuts the instants in two; such
readings tile the time line.  The last section takes one hour of summer time,
and converts a reading to an instant by a guess and its correction.
-/

namespace PaymentPortal.Calendar

/-! ## Units -/

def msPerSecond : Int := 1000
def msPerMinute : Int := 60000
def msPerHour : Int := 3600000
def msPerDay : Int := 86400000

/-! ## Readings -/

/-- A time zone: how far its clocks are ahead of universal time. -/
structure Zone where
  offset : Int → Int

namespace Zone

variable {zone : Zone} {reading instant : Int}

/-- What the clocks read, as a count of milliseconds. -/
def wall (zone : Zone) (instant : Int) : Int := instant + zone.offset instant

/-- The date the clocks show. -/
def date (zone : Zone) (instant : Int) : Date :=
  Date.ofDay (zone.wall instant / msPerDay)

theorem date_valid (zone : Zone) (instant : Int) : (zone.date instant).Valid :=
  Date.ofDay_valid _

theorem toDay_date (zone : Zone) (instant : Int) :
    (zone.date instant).toDay = zone.wall instant / msPerDay :=
  Date.toDay_ofDay _

/-- From this instant on, and never before it, the clocks are at or past the
reading. -/
def Passes (zone : Zone) (reading instant : Int) : Prop :=
  ∀ other, reading ≤ zone.wall other ↔ instant ≤ other

theorem Passes.mono {later last : Int}
    (first : zone.Passes reading instant) (second : zone.Passes later last)
    (notAfter : reading ≤ later) : instant ≤ last :=
  (first last).mp (Int.le_trans notAfter ((second last).mpr (Int.le_refl _)))

/-- Two readings that are passed cut out the instants between them. -/
theorem Passes.between {later last : Int}
    (first : zone.Passes reading instant) (second : zone.Passes later last)
    (other : Int) :
    (instant ≤ other ∧ other < last) ↔
      (reading ≤ zone.wall other ∧ zone.wall other < later) := by
  have opened := first other
  have closed := second other
  omega

/-- Clocks that run steadily wherever they could show the reading pass it. -/
theorem passes_of_steady {least greatest offset : Int}
    (bounded : ∀ other, least ≤ zone.offset other ∧
      zone.offset other ≤ greatest)
    (within : least ≤ offset ∧ offset ≤ greatest)
    (steady : ∀ other, reading - greatest ≤ other → other ≤ reading - least →
      zone.offset other = offset) :
    zone.Passes reading (reading - offset) := by
  intro other
  have bounds := bounded other
  by_cases near : reading - greatest ≤ other ∧ other ≤ reading - least
  · have := steady other near.1 near.2
    unfold wall
    omega
  · unfold wall
    omega

/-- The midnights of two dates enclose the instants of the dates between. -/
theorem date_eq_iff {date : Date} (valid : date.Valid) (other : Int) :
    zone.date other = date ↔
      date.toDay * msPerDay ≤ zone.wall other ∧
        zone.wall other < (date.toDay + 1) * msPerDay := by
  unfold Zone.date msPerDay
  rw [Date.ofDay_eq_iff valid]
  omega

/-! ## Summer time -/

/-- Between two instants the clocks keep standard time, and are an hour ahead of
it from `spring` until `autumn`. -/
structure KeepsSummerTime (zone : Zone)
    (standard spring autumn from_ until_ : Int) : Prop where
  offset_eq : ∀ instant, from_ ≤ instant → instant ≤ until_ →
    zone.offset instant =
      if spring ≤ instant ∧ instant < autumn then standard + msPerHour
      else standard
  apart : spring + msPerDay ≤ autumn

/-- The readings that the clocks jump over in spring. -/
def Skipped (standard spring reading : Int) : Prop :=
  spring + standard ≤ reading ∧ reading < spring + standard + msPerHour

/-- The instant of a reading, with the offset of the reading taken as if it were
an instant. -/
def guess (zone : Zone) (reading : Int) : Int := reading - zone.offset reading

/-- The instant of a reading, with the offset at the guess. -/
def settle (zone : Zone) (reading : Int) : Int :=
  reading - zone.offset (zone.guess reading)

theorem settle_of_steady {offset : Int}
    (atReading : zone.offset reading = offset)
    (atGuess : zone.offset (reading - offset) = offset) :
    zone.settle reading = reading - offset := by
  rw [settle, guess, atReading, atGuess]

section SummerTime

variable {standard spring autumn from_ until_ : Int}

theorem KeepsSummerTime.cases
    (keeps : zone.KeepsSummerTime standard spring autumn from_ until_)
    (instant : Int) (lower : from_ ≤ instant)
    (upper : instant ≤ until_) :
    (spring ≤ instant ∧ instant < autumn ∧
        zone.offset instant = standard + msPerHour) ∨
      ((instant < spring ∨ autumn ≤ instant) ∧
        zone.offset instant = standard) := by
  rw [keeps.offset_eq instant lower upper]
  split <;> omega

/-- The offsets at a reading, at its guess and at the corrected guess, west of
Greenwich. -/
theorem KeepsSummerTime.settle_within
    (keeps : zone.KeepsSummerTime standard spring autumn from_ until_)
    (west : -(12 * msPerHour) ≤ standard ∧ standard ≤ -msPerHour)
    (lower : from_ ≤ reading) (upper : reading - standard ≤ until_) :
    (from_ ≤ zone.guess reading ∧ zone.guess reading ≤ until_) ∧
      from_ ≤ zone.settle reading ∧ zone.settle reading ≤ until_ := by
  unfold msPerHour at west
  have atReading := keeps.cases reading lower (by omega)
  unfold msPerHour at atReading
  have guessed : from_ ≤ zone.guess reading ∧ zone.guess reading ≤ until_ := by
    unfold guess
    omega
  have atGuess := keeps.cases _ guessed.1 guessed.2
  unfold msPerHour at atGuess
  refine ⟨guessed, ?_⟩
  unfold settle
  omega

/-- West of Greenwich a reading that the clocks show is settled at the first
instant that shows it. -/
theorem KeepsSummerTime.settle_shown
    (keeps : zone.KeepsSummerTime standard spring autumn from_ until_)
    (west : -(12 * msPerHour) ≤ standard ∧ standard ≤ -msPerHour)
    (lower : from_ ≤ reading) (upper : reading - standard ≤ until_)
    (shown : ¬Skipped standard spring reading) :
    zone.wall (zone.settle reading) = reading ∧
      ∀ other, from_ ≤ other → other ≤ until_ →
        zone.wall other = reading → zone.settle reading ≤ other := by
  have apart := keeps.apart
  obtain ⟨guessed, settled⟩ := keeps.settle_within west lower upper
  have atReading := keeps.cases reading lower (by unfold msPerHour at west; omega)
  have atGuess := keeps.cases _ guessed.1 guessed.2
  have atSettled := keeps.cases _ settled.1 settled.2
  unfold Skipped at shown
  unfold wall settle guess at *
  simp only [msPerDay, msPerHour] at *
  refine ⟨by omega, fun other notBefore notAfter reads => ?_⟩
  have atOther := keeps.cases other notBefore notAfter
  unfold msPerHour at atOther
  omega

/-- A reading that is jumped over is shown by no instant; the guess lies in the
first hour after the jump and reads an hour more, the corrected guess an hour
less. -/
theorem KeepsSummerTime.settle_skipped
    (keeps : zone.KeepsSummerTime standard spring autumn from_ until_)
    (west : -(12 * msPerHour) ≤ standard ∧ standard ≤ -msPerHour)
    (lower : from_ ≤ reading) (upper : reading - standard ≤ until_)
    (skipped : Skipped standard spring reading) :
    zone.wall (zone.guess reading) = reading + msPerHour ∧
      (spring ≤ zone.guess reading ∧
        zone.guess reading < spring + msPerHour) ∧
      zone.wall (zone.settle reading) = reading - msPerHour ∧
      ∀ other, from_ ≤ other → other ≤ until_ →
        zone.wall other ≠ reading := by
  have apart := keeps.apart
  obtain ⟨guessed, settled⟩ := keeps.settle_within west lower upper
  have atReading := keeps.cases reading lower (by unfold msPerHour at west; omega)
  have atGuess := keeps.cases _ guessed.1 guessed.2
  have atSettled := keeps.cases _ settled.1 settled.2
  unfold Skipped at skipped
  unfold wall settle guess at *
  simp only [msPerDay, msPerHour] at *
  refine ⟨by omega, by omega, by omega, fun other notBefore notAfter => ?_⟩
  have atOther := keeps.cases other notBefore notAfter
  unfold msPerHour at atOther
  omega

end SummerTime

end Zone

end PaymentPortal.Calendar
