import PaymentPortal.Model.TransactionLog
import PaymentPortal.Relational.Grouping

/-!
# Reports

The aggregates of `TransactionModel.ts`: status counts, totals to date and fee
tallies.  Amounts are exact.  A `GROUP BY` returns its groups in any order,
which is a parameter of the query; `SUM` of no rows is null.  The driver returns the
texts of numbers, so the tests for `NaN` are left out.
-/

namespace PaymentPortal.Model

open PaymentPortal.Relational

/-! ## Periods -/

/-- `Bounds`: from `start` up to, but not including, `end_`. -/
structure Bounds where
  start : Int
  end_ : Int
  deriving DecidableEq, Repr

/-- `CourtPeriodName`. -/
inductive CourtPeriodName where
  | day
  | week
  | month
  | quarter
  | fiscalYear
  deriving DecidableEq, Repr

def CourtPeriodName.text : CourtPeriodName → String
  | .day => "day"
  | .week => "week"
  | .month => "month"
  | .quarter => "quarter"
  | .fiscalYear => "fiscalYear"

def COURT_PERIOD_NAMES : List CourtPeriodName :=
  [.day, .week, .month, .quarter, .fiscalYear]

/-- `CourtPeriodRecord`. -/
abbrev CourtPeriodRecord (α : Type) := CourtPeriodName → α

/-- `mapCourtPeriods`, for a function that may throw. -/
def mapCourtPeriods {α : Type}
    (getValue : CourtPeriodName → Except PortalError α) :
    Except PortalError (CourtPeriodRecord α) := do
  let day ← getValue .day
  let week ← getValue .week
  let month ← getValue .month
  let quarter ← getValue .quarter
  let fiscalYear ← getValue .fiscalYear
  .ok fun
    | .day => day
    | .week => week
    | .month => month
    | .quarter => quarter
    | .fiscalYear => fiscalYear

theorem mapCourtPeriods_eq_ok {α : Type}
    {getValue : CourtPeriodName → Except PortalError α}
    {values : CourtPeriodRecord α}
    (usable : ∀ name, getValue name = .ok (values name)) :
    mapCourtPeriods getValue = .ok values := by
  simp only [mapCourtPeriods, usable]
  refine congrArg Except.ok (funext fun name => ?_)
  cases name <;> rfl

/-- `Math.min` over the starts of the periods. -/
def earliestStart (periods : CourtPeriodRecord Bounds) : Int :=
  COURT_PERIOD_NAMES.foldl (fun least name => min least (periods name).start)
    (periods .day).start

/-- `Math.max` over the ends of the periods. -/
def latestEnd (periods : CourtPeriodRecord Bounds) : Int :=
  COURT_PERIOD_NAMES.foldl (fun greatest name => max greatest
    (periods name).end_) (periods .day).end_

theorem earliestStart_le (periods : CourtPeriodRecord Bounds)
    (name : CourtPeriodName) : earliestStart periods ≤ (periods name).start := by
  simp only [earliestStart, COURT_PERIOD_NAMES, List.foldl_cons, List.foldl_nil]
  cases name <;> omega

theorem le_latestEnd (periods : CourtPeriodRecord Bounds)
    (name : CourtPeriodName) : (periods name).end_ ≤ latestEnd periods := by
  simp only [latestEnd, COURT_PERIOD_NAMES, List.foldl_cons, List.foldl_nil]
  cases name <;> omega

/-- The row falls in the period. -/
def isInPeriod (bounds : Bounds) (row : Transaction) : Bool :=
  isUpdatedIn bounds.start bounds.end_ row

/-- `payment_status = 'success'`. -/
def isSuccess (row : Transaction) : Bool :=
  row.paymentStatus == .success

/-! ## Status counts -/

/-- `AggregatedPaymentStatus`. -/
structure AggregatedPaymentStatus where
  success : Nat
  failed : Nat
  pending : Nat
  total : Nat
  deriving DecidableEq, Repr

namespace AggregatedPaymentStatus

def zero : AggregatedPaymentStatus := ⟨0, 0, 0, 0⟩

/-- `totals[paymentStatus]`. -/
def count (totals : AggregatedPaymentStatus) : PaymentStatus → Nat
  | .success => totals.success
  | .failed => totals.failed
  | .pending => totals.pending

/-- `totals[paymentStatus] = count; totals.total += count`. -/
def set (totals : AggregatedPaymentStatus) (paymentStatus : PaymentStatus)
    (count : Nat) : AggregatedPaymentStatus :=
  match paymentStatus with
  | .success =>
      { totals with success := count, total := totals.total + count }
  | .failed => { totals with failed := count, total := totals.total + count }
  | .pending => { totals with pending := count, total := totals.total + count }

/-- `counts[paymentStatus] += qty; counts.total += qty`. -/
def add (counts : AggregatedPaymentStatus) (paymentStatus : PaymentStatus)
    (qty : Nat) : AggregatedPaymentStatus :=
  match paymentStatus with
  | .success => { counts with
      success := counts.success + qty, total := counts.total + qty }
  | .failed => { counts with
      failed := counts.failed + qty, total := counts.total + qty }
  | .pending => { counts with
      pending := counts.pending + qty, total := counts.total + qty }

@[simp]
theorem count_zero (status : PaymentStatus) : zero.count status = 0 := by
  cases status <;> rfl

theorem count_add (counts : AggregatedPaymentStatus)
    (added status : PaymentStatus) (qty : Nat) :
    (counts.add added qty).count status =
      counts.count status + if added = status then qty else 0 := by
  cases added <;> cases status <;> rfl

@[simp]
theorem total_add (counts : AggregatedPaymentStatus) (added : PaymentStatus)
    (qty : Nat) : (counts.add added qty).total = counts.total + qty := by
  cases added <;> rfl

/-- Setting a count that is still zero adds to it. -/
theorem set_eq_add {totals : AggregatedPaymentStatus}
    {paymentStatus : PaymentStatus} (unset : totals.count paymentStatus = 0)
    (qty : Nat) : totals.set paymentStatus qty = totals.add paymentStatus qty := by
  cases paymentStatus <;> simp_all [set, add, count]

/-- The four numbers are determined by the counts and the total. -/
theorem eq_of_count_eq {first second : AggregatedPaymentStatus}
    (counts : ∀ status, first.count status = second.count status)
    (total : first.total = second.total) : first = second := by
  cases first
  cases second
  simp only [mk.injEq]
  exact ⟨counts .success, counts .failed, counts .pending, total⟩

end AggregatedPaymentStatus

/-- `tallyByStatus`. -/
def tallyByStatus (rows : List (PaymentStatus × Nat)) :
    AggregatedPaymentStatus :=
  rows.foldl (fun totals row => totals.set row.1 row.2) .zero

/-- `countsInRange`. -/
def countsInRange (arrangement : Arrangement PaymentStatus) (from_ to_ : Int)
    (rows : List Transaction) : AggregatedPaymentStatus :=
  let groups := groupBy arrangement Transaction.paymentStatus
    (rows.filter (isUpdatedIn from_ to_))
  tallyByStatus (groups.map fun group => (group.key, group.rows.length))

/-! ## Totals and tallies -/

/-- `totalsToDate`. -/
def totalsToDate (periods : CourtPeriodRecord Bounds)
    (rows : List Transaction) : Except PortalError (CourtPeriodRecord Amount) :=
  let selected := rows.filter fun row => isSuccess row &&
    isUpdatedIn (earliestStart periods) (latestEnd periods) row
  let summed : CourtPeriodRecord (Option Amount) := fun name =>
    some ((sum? ((selected.filter (isInPeriod (periods name))).map
      Transaction.transactionAmount)).getD 0)
  mapCourtPeriods fun name =>
    match summed name with
    | some total => .ok total
    | none => .error (.unexpected (
        "totalsToDate returned no usable total for the \"" ++ name.text ++
          "\" period"))

/-- The quantity and the subtotal of one fee. -/
structure FeeTally where
  fee : String
  qty : Nat
  subtotal : Amount
  deriving DecidableEq, Repr

/-- One row of the query behind `feeTalliesByPeriods`. -/
structure FeePeriodsRow where
  fee : String
  qty : CourtPeriodRecord Nat
  subtotal : CourtPeriodRecord (Option Amount)

/-- The aggregates of one fee over the periods. -/
def feePeriodsRow (periods : CourtPeriodRecord Bounds)
    (group : Group String Transaction) : FeePeriodsRow where
  fee := group.key
  qty := fun name => (group.rows.filter (isInPeriod (periods name))).length
  subtotal := fun name =>
    some ((sum? ((group.rows.filter (isInPeriod (periods name))).map
      Transaction.transactionAmount)).getD 0)

/-- What one fee contributes to one period: nothing without a payment. -/
def periodTally (name : CourtPeriodName) (row : FeePeriodsRow) :
    Except PortalError (List FeeTally) :=
  match row.subtotal name with
  | some subtotal =>
      .ok (if row.qty name > 0 then [⟨row.fee, row.qty name, subtotal⟩] else [])
  | none => .error (.unexpected (
      "feeTalliesByPeriods returned no usable tally for the \"" ++ row.fee ++
        "\" fee in the \"" ++ name.text ++ "\" period"))

/-- `feeTalliesByPeriods`. -/
def feeTalliesByPeriods (arrangement : Arrangement String)
    (periods : CourtPeriodRecord Bounds) (rows : List Transaction) :
    Except PortalError (CourtPeriodRecord (List FeeTally)) :=
  let selected := rows.filter fun row => isSuccess row &&
    isUpdatedIn (earliestStart periods) (latestEnd periods) row
  let feeRows := (groupBy arrangement Transaction.fee selected).map
    (feePeriodsRow periods)
  mapCourtPeriods fun name => do
    let tallies ← feeRows.mapM (periodTally name)
    .ok tallies.flatten

/-! ## Counts with the fee breakdown -/

/-- The result of `countsAndFeeBreakdownInRange`. -/
structure CountsAndFeeBreakdown where
  counts : AggregatedPaymentStatus
  tallies : List FeeTally
  deriving DecidableEq, Repr

/-- One row of `GROUP BY payment_status, fee`. -/
structure StatusFeeRow where
  paymentStatus : PaymentStatus
  fee : String
  qty : Nat
  subtotal : Option Amount
  deriving DecidableEq, Repr

/-- The aggregates of one status and fee. -/
def statusFeeRow (group : Group (PaymentStatus × String) Transaction) :
    StatusFeeRow where
  paymentStatus := group.key.1
  fee := group.key.2
  qty := group.rows.length
  subtotal := sum? (group.rows.map Transaction.transactionAmount)

/-- One turn of the loop over the rows. -/
def CountsAndFeeBreakdown.addRow (result : CountsAndFeeBreakdown)
    (row : StatusFeeRow) : Except PortalError CountsAndFeeBreakdown :=
  let counts := result.counts.add row.paymentStatus row.qty
  if row.paymentStatus = .success then
    match row.subtotal with
    | some subtotal => .ok ⟨counts,
        result.tallies ++ [⟨row.fee, row.qty, subtotal⟩]⟩
    | none => .error (.unexpected (
        "countsAndFeeBreakdownInRange returned no usable tally for the \"" ++
          row.fee ++ "\" fee"))
  else .ok ⟨counts, result.tallies⟩

/-- `countsAndFeeBreakdownInRange`. -/
def countsAndFeeBreakdownInRange
    (arrangement : Arrangement (PaymentStatus × String)) (from_ to_ : Int)
    (rows : List Transaction) : Except PortalError CountsAndFeeBreakdown :=
  let groups := groupBy arrangement
    (fun row : Transaction => (row.paymentStatus, row.fee))
    (rows.filter (isUpdatedIn from_ to_))
  (groups.map statusFeeRow).foldlM CountsAndFeeBreakdown.addRow ⟨.zero, []⟩

end PaymentPortal.Model
