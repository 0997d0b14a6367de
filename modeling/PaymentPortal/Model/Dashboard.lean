import PaymentPortal.Model.TransactionLogSchema
import PaymentPortal.Relational.Merging

/-!
# The dashboard

`getTransactionLog.ts` and `getRevenueSummary.ts` on top of the queries.  The
queries of one request are separate statements, so each of them reads a snapshot
of its own; what is written in between is up to the other requests.

`localeCompare` belongs to the language and is a parameter.  Instants are not
formatted, the lines for the logger are left out, and of the response schema
only the checks are kept that its values can fail.
-/

namespace PaymentPortal.Model

open PaymentPortal.Calendar
open PaymentPortal.Relational

/-- `localeCompare`, as a total preorder. -/
structure Collator where
  localeCompare : String → String → Int
  total : ∀ a b, localeCompare a b ≤ 0 ∨ localeCompare b a ≤ 0
  trans : ∀ a b c, localeCompare a b ≤ 0 → localeCompare b c ≤ 0 →
    localeCompare a c ≤ 0

/-! ## The fee breakdown -/

/-- `TransactionFeeBreakdownRow`. -/
structure FeeBreakdownRow where
  fee : String
  feeName : String
  qty : Nat
  subtotal : Amount
  deriving DecidableEq, Repr

/-- `fee in feeNames`: an own key, or one that every object inherits. -/
def isInFeeNames (feeNames : List (String × String)) (fee : String) : Bool :=
  (feeNames.lookup fee).isSome || OBJECT_PROTOTYPE_KEYS.contains fee

/-- The row of one fee; without a tally there is nothing to report. -/
def feeBreakdownRow (feeNames : List (String × String))
    (tallies : List FeeTally) (fee : String) : FeeBreakdownRow where
  fee := fee
  feeName := (feeNames.lookup fee).getD fee
  qty := ((entryOf? FeeTally.fee tallies fee).map FeeTally.qty).getD 0
  subtotal := ((entryOf? FeeTally.fee tallies fee).map FeeTally.subtotal).getD 0

/-- The comparison of `rows.sort`, where it is not positive. -/
def breakdownLe (collator : Collator) (a b : FeeBreakdownRow) : Prop :=
  let difference := b.subtotal - a.subtotal
  if difference = 0 then collator.localeCompare a.feeName b.feeName ≤ 0
  else difference ≤ 0

instance (collator : Collator) (a b : FeeBreakdownRow) :
    Decidable (breakdownLe collator a b) :=
  inferInstanceAs (Decidable (if b.subtotal - a.subtotal = 0 then
    collator.localeCompare a.feeName b.feeName ≤ 0
      else b.subtotal - a.subtotal ≤ 0))

/-- `buildFeeBreakdown`. -/
def buildFeeBreakdown (collator : Collator) (config : Config)
    (tallies : List FeeTally) : List FeeBreakdownRow :=
  let feeNames := getFeeNamesByKey config
  let fees := feeNames.map Prod.fst ++
    (tallies.map FeeTally.fee).filter fun fee => !isInFeeNames feeNames fee
  (fees.map (feeBreakdownRow feeNames tallies)).insertionSort
    (breakdownLe collator)

/-! ## Year-over-year trends -/

/-- `TransactionYoYTrend`. -/
structure TransactionYoYTrend where
  current : Amount
  previous : Amount
  difference : Amount
  percentChange : Option Rat
  deriving DecidableEq, Repr

/-- `Number(value.toFixed(2))`: the nearest one, away from zero between two. -/
def toFixed2 (value : Rat) : Rat :=
  if value < 0 then -((-value * 100 + 1 / 2).floor / 100)
  else (value * 100 + 1 / 2).floor / 100

/-- `yoyTrends`. -/
def yoyTrends (currentTotals previousTotals : CourtPeriodRecord Amount) :
    CourtPeriodRecord TransactionYoYTrend := fun name =>
  let current := currentTotals name
  let previous := previousTotals name
  let difference := current - previous
  { current := current
    previous := previous
    difference := difference
    percentChange :=
      if previous = 0 then none
      else some (toFixed2 (difference / previous * 100)) }

/-! ## The revenue summary -/

/-- `RevenueSummaryPeriod`. -/
structure RevenueSummaryPeriod where
  from_ : Int
  to_ : Int
  total : Amount
  fees : List FeeBreakdownRow
  deriving DecidableEq, Repr

/-- `RevenueSummaryResponse`. -/
structure RevenueSummaryResponse where
  totals : CourtPeriodRecord RevenueSummaryPeriod
  yoyTrends : Option (CourtPeriodRecord TransactionYoYTrend)

/-- The sum of the subtotals, in cents and then in dollars. -/
def sumInCents (tallies : List FeeTally) : Amount :=
  (tallies.foldl (fun cents row => cents + mathRound (row.subtotal * 100)) 0 :
    Int) / 100

/-- The snapshots that the queries of `getRevenueSummary` read. -/
structure SummarySnapshots where
  tallies : List Transaction
  previousTotals : List Transaction

/-- `getRevenueSummary`. -/
def getRevenueSummary (collator : Collator) (config : Config) (court : Zone)
    (byFee : Arrangement String) (now : Int) (snapshots : SummarySnapshots) :
    Except PortalError RevenueSummaryResponse := do
  let periods := courtPeriodBounds court now
  let previousPeriods := previousCourtPeriodBounds court now
  let tallies ← feeTalliesByPeriods byFee periods snapshots.tallies
  let previousTotals :=
    (totalsToDate previousPeriods snapshots.previousTotals).toOption
  let currentTotals : CourtPeriodRecord Amount :=
    fun name => sumInCents (tallies name)
  .ok {
    totals := fun name => {
      from_ := (periods name).start
      to_ := (periods name).end_
      total := currentTotals name
      fees := buildFeeBreakdown collator config (tallies name) }
    yoyTrends := previousTotals.map (Model.yoyTrends currentTotals) }

/-! ## The transaction log -/

/-- `TransactionCounts`. -/
structure TransactionCounts where
  all : Nat
  success : Nat
  failed : Nat
  pending : Nat
  deriving DecidableEq, Repr

/-- `TransactionTotalPeriod`. -/
structure TransactionTotalPeriod where
  from_ : Int
  to_ : Int
  total : Amount
  deriving DecidableEq, Repr

/-- `TransactionLogEntry`. -/
structure TransactionLogEntry where
  row : Transaction
  feeName : String
  paymentMethod : Option PaymentMethod
  deriving DecidableEq, Repr

/-- `TransactionLogResponse`. -/
structure TransactionLogResponse where
  data : List TransactionLogEntry
  counts : Option TransactionCounts
  total : Option Nat
  yoyTrends : Option (CourtPeriodRecord TransactionYoYTrend)
  from_ : Int
  to_ : Int
  page : Nat
  pageSize : Nat
  sort : TransactionLogSortField
  order : SortOrder
  totals : Option (CourtPeriodRecord TransactionTotalPeriod)
  feeBreakdown : Option (List FeeBreakdownRow)

/-- The snapshots that the queries of `getTransactionLog` read. -/
structure LogSnapshots where
  page : List Transaction
  matches_ : List Transaction
  aggregates : List Transaction
  periodTotals : List Transaction
  previousPeriodTotals : List Transaction

/-- The orders in which the queries return their groups. -/
structure LogArrangements where
  byStatus : Arrangement PaymentStatus
  byStatusFee : Arrangement (PaymentStatus × String)

/-- One entry of `data`; a fee name that is no text fails the schema. -/
def toLogEntry (logged : LoggedTransaction) :
    Except PortalError TransactionLogEntry :=
  match logged.feeName with
  | some feeName => .ok {
      row := logged.row
      feeName := feeName
      paymentMethod := toApiPaymentMethod logged.row.paymentMethod }
  | none => .error .zod

/-- A query that is only run if the request asks for it. -/
def onlyIf {α : Type} (asked : Bool) (result : Except PortalError α) :
    Except PortalError (Option α) :=
  if asked then result.map some else .ok none

/-- The counts, with the tallies if the query asks for the breakdown. -/
def logAggregates (arrangements : LogArrangements) (query : RefinedQuery)
    (timeframe : Bounds) (rows : List Transaction) :
    Except PortalError
      (AggregatedPaymentStatus × Option (List FeeTally)) := do
  if query.includeFeeBreakdown then
    let result ← countsAndFeeBreakdownInRange arrangements.byStatusFee
      timeframe.start timeframe.end_ rows
    .ok (result.counts, some result.tallies)
  else
    .ok (countsInRange arrangements.byStatus timeframe.start timeframe.end_
      rows, none)

/-- `getTransactionLog`. -/
def getTransactionLog (collator : Collator) (locale : LocaleRules)
    (config : Config) (court : Zone) (arrangements : LogArrangements)
    (now : Int) (query : RefinedQuery) (snapshots : LogSnapshots) :
    Except PortalError TransactionLogResponse := do
  let timeframe := query.timeframe court now
  let logQuery := query.resolve court now
  let withCounts := logQuery.withCounts query.page
  let filter := logQuery.filter query.page
  let page ← queryLog locale config filter snapshots.page
  let total :=
    if withCounts then
      some (snapshots.matches_.filter (isLogged locale filter)).length
    else none
  let aggregates ← onlyIf withCounts
    (logAggregates arrangements query timeframe snapshots.aggregates)
  let withTotals := withCounts && query.includeTotals
  let periods := courtPeriodBounds court now
  let previousPeriods := previousCourtPeriodBounds court now
  let periodTotals ← onlyIf withTotals
    (totalsToDate periods snapshots.periodTotals)
  let previousPeriodTotals ← onlyIf withTotals
    (totalsToDate previousPeriods snapshots.previousPeriodTotals)
  let data ← page.rows.mapM toLogEntry
  .ok {
    data := data
    counts := aggregates.map fun found => {
      all := found.1.total
      success := found.1.success
      failed := found.1.failed
      pending := found.1.pending }
    total := total
    yoyTrends := do some (yoyTrends (← periodTotals) (← previousPeriodTotals))
    from_ := timeframe.start
    to_ := timeframe.end_
    page := query.page
    pageSize := query.pageSize
    sort := query.sort
    order := query.order
    totals := periodTotals.map fun totals name => {
      from_ := (periods name).start
      to_ := (periods name).end_
      total := totals name }
    feeBreakdown := (aggregates.bind Prod.snd).map
      (buildFeeBreakdown collator config) }

end PaymentPortal.Model
