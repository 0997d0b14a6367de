import Mathlib.Algebra.Order.BigOperators.Group.List
import Mathlib.Algebra.Order.Ring.Rat
import PaymentPortal.Guarantees.Aggregates
import PaymentPortal.Guarantees.CourtDays

/-!
# Current reporting periods nest

Each period opens at the midnight of a day found by the calendar alone, and runs
to date.  The order of those days is the order of the periods, and an amount
counted in one is counted in every longer one.
-/

namespace PaymentPortal.Guarantees

open PaymentPortal.Calendar PaymentPortal.Model

/-! ## The days that open the periods -/

/-- The parts, perhaps out of their ranges, on which the period with a date in it
opens. -/
def openingParts (date : CourtDayParts) : CourtPeriodName → CourtDayParts
  | .day => date
  | .week => ⟨date.year, date.month, date.day - weekday date.toDay⟩
  | .month => ⟨date.year, date.month, 1⟩
  | .quarter => ⟨date.year, date.month - (date.month - 1) % 3, 1⟩
  | .fiscalYear => ⟨if date.month ≥ FISCAL_YEAR_START_MONTH then date.year
      else date.year - 1, FISCAL_YEAR_START_MONTH, 1⟩

/-- The day on which the period opens. -/
def openingDay (date : CourtDayParts) (name : CourtPeriodName) : Int :=
  (openingParts date name).toDay

theorem openingDay_week (date : CourtDayParts) :
    openingDay date .week = weekStart date.toDay := by
  rw [openingDay, openingParts, Int.sub_eq_add_neg, Date.toDay_add, weekStart]
  omega

/-- The fiscal year opens in the year of the date or in the one before. -/
theorem firstDay_le_fiscalYear (date : CourtDayParts) :
    firstDay (date.year - 1) ≤ openingDay date .fiscalYear := by
  simp only [openingDay, openingParts]
  split
  · exact Int.le_trans (firstDay_mono (show date.year - 1 ≤ date.year by omega))
      (Date.first_valid date.year (by decide) (by decide)).inYear.1
  · exact (Date.first_valid _ (by decide) (by decide)).inYear.1

section Days

variable {date : CourtDayParts} (valid : date.Valid)
include valid

theorem month_le_day : openingDay date .month ≤ openingDay date .day := by
  have := valid.day_pos
  simp only [openingDay, openingParts, Date.toDay]
  omega

theorem quarter_le_month : openingDay date .quarter ≤ openingDay date .month := by
  have := valid.month_pos
  have := valid.month_le
  exact Date.toDay_le_of_month 1 (by omega) (by omega) (by omega)

theorem fiscalYear_le_quarter :
    openingDay date .fiscalYear ≤ openingDay date .quarter := by
  have := valid.month_pos
  have := valid.month_le
  have october : FISCAL_YEAR_START_MONTH = 10 := rfl
  simp only [openingDay, openingParts]
  split
  · exact Date.toDay_le_of_month 1 (by omega) (by omega) (by omega)
  · exact Int.le_of_lt (Date.Valid.toDay_lt_of_year
      (Date.first_valid _ (by decide) (by decide))
      (Date.first_valid _ (by omega) (by omega)) (by simp only; omega))

end Days

theorem week_range (date : CourtDayParts) :
    openingDay date .week ≤ openingDay date .day ∧
      openingDay date .day ≤ openingDay date .week + 6 := by
  have day : openingDay date .day = date.toDay := rfl
  have range := weekday_range date.toDay
  rw [openingDay_week, day, weekStart]
  omega

/-- Every period opens on or before the date, and not before the year that
precedes it. -/
theorem openingDay_range {date : CourtDayParts} (valid : date.Valid)
    (name : CourtPeriodName) :
    firstDay (date.year - 1) ≤ openingDay date name ∧
      openingDay date name ≤ date.toDay := by
  have day : openingDay date .day = date.toDay := rfl
  have week := week_range date
  have month := month_le_day valid
  have quarter := quarter_le_month valid
  have fiscalYear := fiscalYear_le_quarter valid
  have opened := firstDay_le_fiscalYear date
  have inYear := valid.inYear.1
  have before := firstDay_succ (date.year - 1)
  have leap := leapDay_cases (date.year - 1)
  rw [Int.sub_add_cancel] at before
  cases name <;> omega

/-! ## The periods -/

section Periods

variable {court : Zone} (follows : FollowsNewYork court) {now : Int}
  (since : 2008 ≤ (court.date now).year)
include follows since

/-- A period runs from the midnight of its opening day to date. -/
theorem courtPeriodBounds_eq (name : CourtPeriodName) :
    firstDay 2007 ≤ openingDay (court.date now) name ∧
      courtPeriodBounds court now name =
        { start := court.settle
            (openingDay (court.date now) name * msPerDay)
          end_ := now } := by
  have same := partsInZone_toDate (show 1 ≤ (court.date now).year by omega)
  have from2007 : firstDay 2007 ≤ openingDay (court.date now) name :=
    Int.le_trans (firstDay_mono (by omega))
      (openingDay_range (court.date_valid now) name).1
  have weekday : courtWeekday (court.date now) =
      weekday (court.date now).toDay := courtWeekday_eq (by omega)
  have opening : courtPeriodBounds court now name =
      { start := startOfZoneDay (openingParts (court.date now) name) court
        end_ := now } := by
    cases name <;>
      simp only [courtPeriodBounds, openingParts, same, weekday]
  have century : 100 ≤ (openingParts (court.date now) name).year := by
    cases name <;> simp only [openingParts] <;> omega
  refine ⟨from2007, ?_⟩
  rw [opening, follows.startOfZoneDay_eq century from2007, openingDay]

theorem start_le_start {earlier later : CourtPeriodName}
    (order : openingDay (court.date now) earlier ≤
      openingDay (court.date now) later) :
    (courtPeriodBounds court now earlier).start ≤
      (courtPeriodBounds court now later).start := by
  obtain ⟨earlierSince, earlierBounds⟩ :=
    courtPeriodBounds_eq follows since earlier
  obtain ⟨laterSince, laterBounds⟩ := courtPeriodBounds_eq follows since later
  rw [earlierBounds, laterBounds]
  refine (follows.passes_midnight earlierSince).mono
    (follows.passes_midnight laterSince) ?_
  unfold msPerDay
  omega

theorem start_le_now (name : CourtPeriodName) :
    (courtPeriodBounds court now name).start ≤ now ∧
      (courtPeriodBounds court now name).end_ = now ∧
      ReadsMidnight court (courtPeriodBounds court now name).start := by
  obtain ⟨from2007, bounds⟩ := courtPeriodBounds_eq follows since name
  have notAfter := (openingDay_range (court.date_valid now) name).2
  rw [Zone.toDay_date] at notAfter
  rw [bounds]
  refine ⟨(follows.passes_midnight from2007 now).mp ?_, rfl,
    readsMidnight_of_wall (follows.wall_midnight from2007)⟩
  unfold msPerDay at *
  omega

/-- The date on which a period starts is that of its opening day. -/
theorem toDay_date_start (name : CourtPeriodName) :
    (court.date (courtPeriodBounds court now name).start).toDay =
      openingDay (court.date now) name := by
  obtain ⟨from2007, bounds⟩ := courtPeriodBounds_eq follows since name
  rw [bounds, Zone.toDay_date, follows.wall_midnight from2007]
  exact Int.mul_ediv_cancel _ (by decide)

end Periods

/-! ## Totals -/

/-- With no negative amount, a period that starts earlier totals no less. -/
theorem total_le_total (periods : CourtPeriodRecord Bounds)
    {rows : List Transaction} (shorter longer : CourtPeriodName)
    (nonnegative : ∀ row ∈ rows, 0 ≤ row.transactionAmount)
    (sameEnd : (periods shorter).end_ = (periods longer).end_)
    (earlier : (periods longer).start ≤ (periods shorter).start) :
    (((envelope periods rows).filter (isInPeriod (periods shorter))).map
        Transaction.transactionAmount).sum ≤
      (((envelope periods rows).filter (isInPeriod (periods longer))).map
        Transaction.transactionAmount).sum := by
  have sublist := List.monotone_filter_right (envelope periods rows)
    (p := isInPeriod (periods shorter)) (q := isInPeriod (periods longer))
    (fun row inShorter => by
      simp only [isInPeriod, isUpdatedIn_iff] at *
      omega)
  refine (sublist.map Transaction.transactionAmount).sum_le_sum ?_
  intro amount member
  obtain ⟨row, inPeriod, rfl⟩ := List.mem_map.mp member
  exact nonnegative row
    (List.mem_of_mem_filter (List.mem_of_mem_filter inPeriod))

/-- Current reporting periods nest, and so do the totals of a table without
negative amounts. -/
theorem current_periods_nest {court : Zone} (follows : FollowsNewYork court)
    {now : Int} (since : 2008 ≤ (court.date now).year) :
    let periods := courtPeriodBounds court now
    (∀ name, (periods name).start ≤ now ∧ (periods name).end_ = now ∧
        ReadsMidnight court (periods name).start) ∧
      ((periods .fiscalYear).start ≤ (periods .quarter).start ∧
        (periods .quarter).start ≤ (periods .month).start ∧
        (periods .month).start ≤ (periods .day).start ∧
        (periods .week).start ≤ (periods .day).start) ∧
      (weekday (court.date (periods .week).start).toDay = 0 ∧
        (court.date (periods .day).start).toDay ≤
          (court.date (periods .week).start).toDay + 6) ∧
      ∀ rows : List Transaction,
        (∀ row ∈ rows, 0 ≤ row.transactionAmount) →
        ∃ totals, totalsToDate periods rows = .ok totals ∧
          totals .day ≤ totals .week ∧ totals .day ≤ totals .month ∧
          totals .month ≤ totals .quarter ∧
          totals .quarter ≤ totals .fiscalYear := by
  have valid := court.date_valid now
  have ends := fun name => (start_le_now follows since name).2.1
  have week := start_le_start follows since (week_range (court.date now)).1
  have month := start_le_start follows since (month_le_day valid)
  have quarter := start_le_start follows since (quarter_le_month valid)
  have fiscalYear := start_le_start follows since (fiscalYear_le_quarter valid)
  refine ⟨start_le_now follows since, ⟨fiscalYear, quarter, month, week⟩, ?_,
    fun rows nonnegative => ⟨_, totalsToDate_eq, ?_⟩⟩
  · rw [toDay_date_start follows since, toDay_date_start follows since,
      openingDay_week]
    refine ⟨weekday_weekStart _, ?_⟩
    have range := (week_range (court.date now)).2
    rwa [openingDay_week] at range
  · have total := fun shorter longer =>
      total_le_total (courtPeriodBounds court now) shorter longer nonnegative
        ((ends shorter).trans (ends longer).symm)
    exact ⟨total _ _ week, total _ _ month, total _ _ quarter,
      total _ _ fiscalYear⟩

/-- Noon on 4 July 2026, with payments on 25 May and an hour ago. -/
theorem current_periods_nest_newYork :
    (courtPeriodBounds newYork 1783180800000 .week).start ≤
        (courtPeriodBounds newYork 1783180800000 .day).start ∧
      ∃ totals, totalsToDate (courtPeriodBounds newYork 1783180800000)
          (samplePayments 1779724800000 1783177200000) = .ok totals ∧
        totals .day = 60 ∧ totals .quarter = 60 ∧ totals .fiscalYear = 370 ∧
        totals .day ≤ totals .week ∧ totals .day ≤ totals .month ∧
        totals .month ≤ totals .quarter ∧
        totals .quarter ≤ totals .fiscalYear := by
  have nested := current_periods_nest newYork_follows
    (show 2008 ≤ (newYork.date 1783180800000).year by decide)
  have nonnegative : ∀ row ∈ samplePayments 1779724800000 1783177200000,
      0 ≤ row.transactionAmount := by
    decide +kernel
  obtain ⟨totals, summed, ordered⟩ := nested.2.2.2 _ nonnegative
  obtain rfl := Except.ok.inj (summed.symm.trans totalsToDate_eq)
  exact ⟨nested.2.1.2.2.2, _, summed, by decide +kernel, by decide +kernel,
    by decide +kernel, ordered⟩

end PaymentPortal.Guarantees
