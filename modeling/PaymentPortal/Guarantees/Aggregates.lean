import Mathlib.Algebra.GroupWithZero.Nat
import Mathlib.Algebra.Ring.Rat
import PaymentPortal.Guarantees.LogPages
import PaymentPortal.Model.Reporting

/-!
# The reports agree

The aggregates group the same rows differently.  A sum over the groups of a
query is the sum over its rows, whatever the groups are, so what two queries
report about the same rows agrees; the prefilter over all periods loses no row
of any of them.
-/

namespace PaymentPortal.Guarantees

open PaymentPortal.Model
open PaymentPortal.Relational

/-- The filter that restricts the log to a timeframe only. -/
def timeframeFilter (from_ to_ : Int) (sort : TransactionLogSortField)
    (order : SortOrder) (limit offset : Nat) : TransactionLogFilter where
  from_ := from_
  to_ := to_
  status := none
  fee := none
  paymentMethod := none
  transactionStatus := none
  metadataSearch := none
  sort := sort
  order := order
  limit := limit
  offset := offset
  withTotal := true

/-! ## Counts -/

section Counts

open AggregatedPaymentStatus

/-- Adding up counts by status. -/
theorem count_foldl_add (rows : List (PaymentStatus × Nat))
    (counts : AggregatedPaymentStatus) (status : PaymentStatus) :
    (rows.foldl (fun counts row => counts.add row.1 row.2) counts).count
        status =
      counts.count status +
        (rows.map fun row => if row.1 = status then row.2 else 0).sum := by
  induction rows generalizing counts with
  | nil => rfl
  | cons row rest ih =>
      rw [List.foldl_cons, ih, count_add, List.map_cons, List.sum_cons,
        Nat.add_assoc]

theorem total_foldl_add (rows : List (PaymentStatus × Nat))
    (counts : AggregatedPaymentStatus) :
    (rows.foldl (fun counts row => counts.add row.1 row.2) counts).total =
      counts.total + (rows.map Prod.snd).sum := by
  induction rows generalizing counts with
  | nil => rfl
  | cons row rest ih =>
      rw [List.foldl_cons, ih, total_add, List.map_cons, List.sum_cons,
        Nat.add_assoc]

/-- `tallyByStatus` sets every count once, so it might as well add. -/
theorem foldl_set_eq_add {rows : List (PaymentStatus × Nat)}
    (distinct : (rows.map Prod.fst).Nodup) {totals : AggregatedPaymentStatus}
    (unset : ∀ row ∈ rows, totals.count row.1 = 0) :
    rows.foldl (fun totals row => totals.set row.1 row.2) totals =
      rows.foldl (fun counts row => counts.add row.1 row.2) totals := by
  induction rows generalizing totals with
  | nil => rfl
  | cons row rest ih =>
      obtain ⟨new, distinct⟩ := List.nodup_cons.mp distinct
      rw [List.foldl_cons, List.foldl_cons,
        set_eq_add (unset row List.mem_cons_self)]
      apply ih distinct
      intro other member
      have different : row.1 ≠ other.1 := fun same =>
        new (same ▸ List.mem_map_of_mem member)
      rw [count_add, if_neg different,
        unset other (List.mem_cons_of_mem _ member)]

end Counts

/-- How many rows have the status. -/
def statusCount (rows : List Transaction) (status : PaymentStatus) : Nat :=
  (rows.map fun row => if row.paymentStatus = status then 1 else 0).sum

/-- The counts of all groups of a status, whatever else they are grouped by. -/
theorem sum_groups_of_status {κ : Type} [DecidableEq κ]
    (arrangement : Arrangement κ) {key : Transaction → κ}
    (statusOf : κ → PaymentStatus)
    (carries : ∀ row, statusOf (key row) = row.paymentStatus)
    (rows : List Transaction) (status : PaymentStatus) :
    ((groupBy arrangement key rows).map fun group =>
      if statusOf group.key = status then group.rows.length else 0).sum =
        statusCount rows status := by
  rw [statusCount, ← sum_groupBy arrangement key]
  refine congrArg List.sum (List.map_congr_left fun group member => ?_)
  obtain ⟨_, rows_eq⟩ := mem_groupBy.mp member
  have uniform : ∀ row ∈ group.rows,
      (if row.paymentStatus = status then 1 else 0) =
        if statusOf group.key = status then 1 else 0 := by
    intro row inGroup
    rw [rows_eq] at inGroup
    have isKey : key row = group.key := by
      simpa using (List.mem_filter.mp inGroup).2
    rw [← carries, isKey]
  rw [List.map_congr_left uniform]
  split <;> simp

/-- The sizes of all groups add up to the number of rows. -/
theorem sum_group_sizes {κ : Type} [DecidableEq κ]
    (arrangement : Arrangement κ) (key : Transaction → κ)
    (rows : List Transaction) :
    ((groupBy arrangement key rows).map fun group => group.rows.length).sum =
      rows.length := by
  simpa using sum_groupBy arrangement key rows fun _ => (1 : Nat)

/-- `countsInRange` counts every row of the range once. -/
theorem countsInRange_spec (arrangement : Arrangement PaymentStatus)
    (from_ to_ : Int) (rows : List Transaction) :
    (∀ status, (countsInRange arrangement from_ to_ rows).count status =
        statusCount (rows.filter (isUpdatedIn from_ to_)) status) ∧
      (countsInRange arrangement from_ to_ rows).total =
        (rows.filter (isUpdatedIn from_ to_)).length := by
  have distinct : (((groupBy arrangement Transaction.paymentStatus
      (rows.filter (isUpdatedIn from_ to_))).map fun group =>
        (group.key, group.rows.length)).map Prod.fst).Nodup := by
    rw [List.map_map]
    exact nodup_groupBy_keys
  rw [countsInRange, tallyByStatus, foldl_set_eq_add distinct fun _ _ => by simp]
  constructor
  · intro status
    rw [count_foldl_add, List.map_map]
    simpa [Function.comp_def] using
      sum_groups_of_status arrangement id (fun _ => rfl) _ status
  · rw [total_foldl_add, List.map_map]
    simpa [AggregatedPaymentStatus.zero, Function.comp_def] using
      sum_group_sizes arrangement _ _

/-! ## Tallies -/

/-- The successful rows of a fee. -/
def paidRows (fee : String) (rows : List Transaction) : List Transaction :=
  rows.filter fun row => isSuccess row && row.fee == fee

/-- The tally of a fee that has been paid among the rows. -/
def IsTally (rows : List Transaction) (tally : FeeTally) : Prop :=
  paidRows tally.fee rows ≠ [] ∧
    tally.qty = (paidRows tally.fee rows).length ∧
    tally.subtotal = ((paidRows tally.fee rows).map
      Transaction.transactionAmount).sum

/-- Tallies of the same rows, one for each fee, differ in their order only. -/
theorem perm_of_tallies {rows : List Transaction}
    {first second : List FeeTally}
    (firstDistinct : (first.map FeeTally.fee).Nodup)
    (secondDistinct : (second.map FeeTally.fee).Nodup)
    (isFirst : ∀ tally, tally ∈ first ↔ IsTally rows tally)
    (isSecond : ∀ tally, tally ∈ second ↔ IsTally rows tally) :
    first.Perm second := by
  apply (List.perm_ext_iff_of_nodup firstDistinct.of_map
    secondDistinct.of_map).mpr
  intro tally
  rw [isFirst, isSecond]

/-! ### The breakdown -/

/-- The tally of a group of successful rows. -/
def groupTally (group : Group (PaymentStatus × String) Transaction) :
    FeeTally :=
  ⟨group.key.2, group.rows.length,
    (group.rows.map Transaction.transactionAmount).sum⟩

/-- Groups of successful rows. -/
def isSuccessGroup (group : Group (PaymentStatus × String) Transaction) :
    Bool :=
  group.key.1 == .success

/-- The loop over the groups does not throw, because no group is empty. -/
theorem foldlM_addRow
    {groups : List (Group (PaymentStatus × String) Transaction)}
    (nonempty : ∀ group ∈ groups, group.rows ≠ [])
    (result : CountsAndFeeBreakdown) :
    (groups.map statusFeeRow).foldlM CountsAndFeeBreakdown.addRow result =
      .ok ⟨(groups.map fun group => (group.key.1, group.rows.length)).foldl
          (fun counts row => counts.add row.1 row.2) result.counts,
        result.tallies ++ (groups.filter isSuccessGroup).map groupTally⟩ := by
  induction groups generalizing result with
  | nil => simp [pure, Except.pure]
  | cons group rest ih =>
      have summed : sum? (group.rows.map Transaction.transactionAmount) =
          some (group.rows.map Transaction.transactionAmount).sum :=
        sum?_of_ne_nil (by simpa using nonempty group List.mem_cons_self)
      have added : result.addRow (statusFeeRow group) =
          .ok ⟨result.counts.add group.key.1 group.rows.length,
            result.tallies ++
              ([group].filter isSuccessGroup).map groupTally⟩ := by
        rw [CountsAndFeeBreakdown.addRow]
        by_cases success : group.key.1 = .success
        · simp [summed, statusFeeRow, isSuccessGroup, groupTally, success]
        · simp [statusFeeRow, isSuccessGroup, success]
      rw [List.map_cons, List.foldlM_cons, added]
      refine (ih (fun other member =>
        nonempty other (List.mem_cons_of_mem _ member)) _).trans ?_
      by_cases success : isSuccessGroup group = true <;> simp [success]

/-- Adding up over the members that pass a test. -/
theorem sum_map_filter {α M : Type} [AddCommMonoid M] (test : α → Bool)
    (value : α → M) (items : List α) :
    ((items.filter test).map value).sum =
      (items.map fun item => if test item then value item else 0).sum := by
  induction items with
  | nil => rfl
  | cons item rest ih =>
      by_cases passes : test item = true <;> simp [passes, ih]

variable {arrangement : Arrangement (PaymentStatus × String)}
variable {from_ to_ : Int} {rows : List Transaction}

/-- The groups of `countsAndFeeBreakdownInRange`. -/
abbrev statusFeeGroups (arrangement : Arrangement (PaymentStatus × String))
    (from_ to_ : Int) (rows : List Transaction) :
    List (Group (PaymentStatus × String) Transaction) :=
  groupBy arrangement (fun row : Transaction => (row.paymentStatus, row.fee))
    (rows.filter (isUpdatedIn from_ to_))

/-- What `countsAndFeeBreakdownInRange` returns. -/
theorem countsAndFeeBreakdownInRange_eq :
    countsAndFeeBreakdownInRange arrangement from_ to_ rows = .ok ⟨
      ((statusFeeGroups arrangement from_ to_ rows).map fun group =>
        (group.key.1, group.rows.length)).foldl
          (fun counts row => counts.add row.1 row.2) .zero,
      ((statusFeeGroups arrangement from_ to_ rows).filter
        isSuccessGroup).map groupTally⟩ :=
  foldlM_addRow (fun _ member => rows_ne_nil_of_mem_groupBy member) _

/-- The breakdown counts every row of the range once. -/
theorem breakdown_counts {breakdown : CountsAndFeeBreakdown}
    (returned : countsAndFeeBreakdownInRange arrangement from_ to_ rows =
      .ok breakdown) :
    (∀ status, breakdown.counts.count status =
        statusCount (rows.filter (isUpdatedIn from_ to_)) status) ∧
      breakdown.counts.total =
        (rows.filter (isUpdatedIn from_ to_)).length := by
  obtain rfl := Except.ok.inj (countsAndFeeBreakdownInRange_eq.symm.trans
    returned)
  constructor
  · intro status
    rw [count_foldl_add, List.map_map]
    simpa [Function.comp_def] using
      sum_groups_of_status arrangement Prod.fst (fun _ => rfl) _ status
  · rw [total_foldl_add, List.map_map]
    simpa [AggregatedPaymentStatus.zero, Function.comp_def] using
      sum_group_sizes arrangement _ _

/-- The rows of a group of successful rows. -/
theorem rows_eq_of_success
    {group : Group (PaymentStatus × String) Transaction}
    (member : group ∈ statusFeeGroups arrangement from_ to_ rows)
    (success : isSuccessGroup group = true) :
    group.rows = paidRows group.key.2 (rows.filter (isUpdatedIn from_ to_)) := by
  obtain ⟨_, rows_eq⟩ := mem_groupBy.mp member
  have isSuccess_eq : group.key.1 = .success := by
    simpa [isSuccessGroup] using success
  rw [rows_eq, paidRows]
  apply List.filter_congr
  intro row _
  simp [Prod.ext_iff, isSuccess, isSuccess_eq, Bool.decide_and,
    beq_eq_decide]

/-- A fee that has been paid has a group of successful rows. -/
theorem exists_successGroup {fee : String}
    (paid : paidRows fee (rows.filter (isUpdatedIn from_ to_)) ≠ []) :
    ∃ group ∈ statusFeeGroups arrangement from_ to_ rows,
      isSuccessGroup group = true ∧ group.key.2 = fee := by
  obtain ⟨row, inPaid⟩ := List.exists_mem_of_ne_nil _ paid
  obtain ⟨inRange, isPaid⟩ := List.mem_filter.mp inPaid
  obtain ⟨success, isFee⟩ :
      row.paymentStatus = .success ∧ row.fee = fee := by
    simpa [isSuccess] using isPaid
  refine ⟨_, group_mem_groupBy inRange, ?_, isFee⟩
  simp [isSuccessGroup, success]

/-- The breakdown has one tally for each fee that has been paid. -/
theorem breakdown_tallies {breakdown : CountsAndFeeBreakdown}
    (returned : countsAndFeeBreakdownInRange arrangement from_ to_ rows =
      .ok breakdown) :
    (breakdown.tallies.map FeeTally.fee).Nodup ∧
      (∀ tally, tally ∈ breakdown.tallies ↔
        IsTally (rows.filter (isUpdatedIn from_ to_)) tally) ∧
      (breakdown.tallies.map FeeTally.qty).sum =
        breakdown.counts.count .success := by
  have counted := (breakdown_counts returned).1 .success
  obtain rfl := Except.ok.inj (countsAndFeeBreakdownInRange_eq.symm.trans
    returned)
  refine ⟨?_, ?_, ?_⟩
  · have distinct : (statusFeeGroups arrangement from_ to_ rows).Pairwise
        fun first second => first.key ≠ second.key :=
      List.pairwise_map.mp nodup_groupBy_keys
    rw [List.map_map, List.Nodup, List.pairwise_map]
    apply (distinct.filter isSuccessGroup).imp_of_mem
    intro first second firstIn secondIn different sameFee
    have firstSuccess := (List.mem_filter.mp firstIn).2
    have secondSuccess := (List.mem_filter.mp secondIn).2
    simp only [isSuccessGroup, beq_iff_eq] at firstSuccess secondSuccess
    exact different (Prod.ext (firstSuccess.trans secondSuccess.symm) sameFee)
  · intro tally
    constructor
    · intro member
      obtain ⟨group, filtered, rfl⟩ := List.mem_map.mp member
      obtain ⟨inGroups, success⟩ := List.mem_filter.mp filtered
      have rows_eq := rows_eq_of_success inGroups success
      refine ⟨?_, ?_, ?_⟩
      · exact rows_eq ▸ rows_ne_nil_of_mem_groupBy inGroups
      · exact congrArg List.length rows_eq
      · exact congrArg (fun own => (own.map
          Transaction.transactionAmount).sum) rows_eq
    · rintro ⟨paid, qty, subtotal⟩
      obtain ⟨group, inGroups, success, isFee⟩ := exists_successGroup paid
      refine List.mem_map.mpr
        ⟨group, List.mem_filter.mpr ⟨inGroups, success⟩, ?_⟩
      rw [groupTally, rows_eq_of_success inGroups success, isFee, ← qty,
        ← subtotal]
  · rw [counted, List.map_map, sum_map_filter]
    simpa [isSuccessGroup, groupTally, Function.comp_def] using
      sum_groups_of_status arrangement Prod.fst (fun _ => rfl) _ .success

/-! ### The tallies of the periods -/

section Periods

variable {byFee : Arrangement String} {periods : CourtPeriodRecord Bounds}

/-- The rows that the queries over all periods select. -/
abbrev envelope (periods : CourtPeriodRecord Bounds)
    (rows : List Transaction) : List Transaction :=
  rows.filter fun row => isSuccess row &&
    isUpdatedIn (earliestStart periods) (latestEnd periods) row

/-- The prefilter loses no successful row of any period. -/
theorem filter_envelope (name : CourtPeriodName) :
    (envelope periods rows).filter (isInPeriod (periods name)) =
      (rows.filter (isInPeriod (periods name))).filter isSuccess := by
  rw [List.filter_filter, List.filter_filter]
  apply List.filter_congr
  intro row _
  have starts := earliestStart_le periods name
  have ends := le_latestEnd periods name
  rw [Bool.eq_iff_iff]
  simp only [Bool.and_eq_true, isInPeriod, isUpdatedIn_iff]
  constructor
  · rintro ⟨inPeriod, success, _⟩
    exact ⟨success, inPeriod⟩
  · rintro ⟨success, inPeriod⟩
    exact ⟨inPeriod, success, by omega, by omega⟩

/-- The tally of one fee in one period. -/
def tallyIn (bounds : Bounds) (group : Group String Transaction) : FeeTally :=
  ⟨group.key, (group.rows.filter (isInPeriod bounds)).length,
    ((group.rows.filter (isInPeriod bounds)).map
      Transaction.transactionAmount).sum⟩

/-- The groups with a payment in the period. -/
def isPaidIn (bounds : Bounds) (group : Group String Transaction) : Bool :=
  decide (0 < (group.rows.filter (isInPeriod bounds)).length)

theorem periodTally_eq (name : CourtPeriodName)
    (group : Group String Transaction) :
    periodTally name (feePeriodsRow periods group) =
      .ok (if isPaidIn (periods name) group then
        [tallyIn (periods name) group] else []) := by
  simp [periodTally, feePeriodsRow, isPaidIn, tallyIn]

/-- One entry for each member that passes a test. -/
theorem flatten_map_ite {α β : Type} (test : α → Bool) (value : α → β)
    (items : List α) :
    (items.map fun item => if test item then [value item] else []).flatten =
      (items.filter test).map value := by
  induction items with
  | nil => rfl
  | cons item rest ih =>
      by_cases passes : test item = true <;> simp [passes, ih]

/-- What `feeTalliesByPeriods` returns. -/
theorem feeTalliesByPeriods_eq :
    feeTalliesByPeriods byFee periods rows = .ok fun name =>
      ((groupBy byFee Transaction.fee (envelope periods rows)).filter
        (isPaidIn (periods name))).map (tallyIn (periods name)) := by
  rw [feeTalliesByPeriods]
  apply mapCourtPeriods_eq_ok
  intro name
  have tallied : ∀ group ∈
      groupBy byFee Transaction.fee (envelope periods rows),
      (periodTally name ∘ feePeriodsRow periods) group =
        .ok (if isPaidIn (periods name) group then
          [tallyIn (periods name) group] else []) :=
    fun group _ => periodTally_eq name group
  rw [List.mapM_map, mapM_eq_ok tallied]
  exact congrArg Except.ok (flatten_map_ite _ _ _)

/-- The rows of a fee in a period are its successful rows there. -/
theorem filter_group_eq (name : CourtPeriodName)
    {group : Group String Transaction}
    (member : group ∈ groupBy byFee Transaction.fee (envelope periods rows)) :
    group.rows.filter (isInPeriod (periods name)) =
      paidRows group.key (rows.filter (isInPeriod (periods name))) := by
  obtain ⟨_, rows_eq⟩ := mem_groupBy.mp member
  rw [rows_eq, List.filter_comm, filter_envelope, paidRows,
    List.filter_filter]
  apply List.filter_congr
  intro row _
  simp [beq_eq_decide, Bool.and_comm]

/-- The fees with a payment in the period. -/
abbrev paidGroups (byFee : Arrangement String)
    (periods : CourtPeriodRecord Bounds) (rows : List Transaction)
    (name : CourtPeriodName) : List (Group String Transaction) :=
  (groupBy byFee Transaction.fee (envelope periods rows)).filter
    (isPaidIn (periods name))

theorem nodup_period_fees (name : CourtPeriodName) :
    (((paidGroups byFee periods rows name).map
      (tallyIn (periods name))).map FeeTally.fee).Nodup := by
  rw [List.map_map]
  exact List.Nodup.sublist (List.filter_sublist.map Group.key)
    nodup_groupBy_keys

/-- One tally for each fee that has been paid in the period. -/
theorem mem_period_tallies (name : CourtPeriodName) (tally : FeeTally) :
    tally ∈ (paidGroups byFee periods rows name).map
        (tallyIn (periods name)) ↔
      IsTally (rows.filter (isInPeriod (periods name))) tally := by
  constructor
  · intro member
    obtain ⟨group, filtered, rfl⟩ := List.mem_map.mp member
    obtain ⟨inGroups, paid⟩ := List.mem_filter.mp filtered
    have rows_eq := filter_group_eq name inGroups
    refine ⟨?_, ?_, ?_⟩
    · rw [isPaidIn, rows_eq] at paid
      exact List.ne_nil_of_length_pos (of_decide_eq_true paid)
    · exact congrArg List.length rows_eq
    · exact congrArg (fun own => (own.map
        Transaction.transactionAmount).sum) rows_eq
  · rintro ⟨paid, qty, subtotal⟩
    obtain ⟨row, inPaid⟩ := List.exists_mem_of_ne_nil _ paid
    obtain ⟨inPeriod, isPaid⟩ := List.mem_filter.mp inPaid
    obtain ⟨success, isFee⟩ :
        isSuccess row = true ∧ row.fee = tally.fee := by
      simpa using isPaid
    have inEnvelope : row ∈ envelope periods rows := by
      have selected : row ∈ (envelope periods rows).filter
          (isInPeriod (periods name)) := by
        rw [filter_envelope]
        exact List.mem_filter.mpr ⟨inPeriod, success⟩
      exact List.mem_of_mem_filter selected
    have inGroups : _ ∈ groupBy byFee Transaction.fee (envelope periods rows) :=
      group_mem_groupBy inEnvelope
    have rows_eq := filter_group_eq name inGroups
    refine List.mem_map.mpr ⟨_, List.mem_filter.mpr ⟨inGroups, ?_⟩, ?_⟩
    · rw [isPaidIn, rows_eq, isFee]
      exact decide_eq_true (List.length_pos_of_ne_nil paid)
    · rw [tallyIn, rows_eq, isFee, ← qty, ← subtotal]

/-- The tallies of a period add up to the payments in it. -/
theorem sum_period_tallies (name : CourtPeriodName) :
    (((paidGroups byFee periods rows name).map
      (tallyIn (periods name))).map FeeTally.subtotal).sum =
      (((envelope periods rows).filter (isInPeriod (periods name))).map
        Transaction.transactionAmount).sum := by
  rw [List.map_map, sum_map_filter, sum_map_filter,
    ← sum_groupBy byFee Transaction.fee]
  refine congrArg List.sum (List.map_congr_left fun group _ => ?_)
  rw [← sum_map_filter]
  by_cases paid : isPaidIn (periods name) group = true
  · rw [if_pos paid]
    rfl
  · have unpaid : group.rows.filter (isInPeriod (periods name)) = [] := by
      simpa [isPaidIn] using paid
    rw [if_neg paid, unpaid]
    rfl

/-- What `totalsToDate` returns. -/
theorem totalsToDate_eq :
    totalsToDate periods rows = .ok fun name =>
      (((envelope periods rows).filter (isInPeriod (periods name))).map
        Transaction.transactionAmount).sum := by
  rw [totalsToDate]
  apply mapCourtPeriods_eq_ok
  intro name
  simp

end Periods

/-! ## Agreement -/

/-- What the reports about the same rows have in common. -/
structure Agreement (locale : LocaleRules) (config : Config)
    (byStatus : Arrangement PaymentStatus) (from_ to_ : Int)
    (periods : CourtPeriodRecord Bounds) (rows : List Transaction)
    (breakdown : CountsAndFeeBreakdown) (totals : CourtPeriodRecord Amount)
    (tallies : CourtPeriodRecord (List FeeTally)) : Prop where
  counts : countsInRange byStatus from_ to_ rows = breakdown.counts
  success : breakdown.counts.success =
    (breakdown.tallies.map FeeTally.qty).sum
  total : ∀ sort order limit offset, ∃ page,
    queryLog locale config (timeframeFilter from_ to_ sort order limit offset)
      rows = .ok ⟨page, some breakdown.counts.total⟩
  fees : (breakdown.tallies.map FeeTally.fee).Nodup
  subtotals : ∀ name, ((tallies name).map FeeTally.subtotal).sum = totals name
  byPeriod : ∀ name arrangement, ∃ other,
    countsAndFeeBreakdownInRange arrangement (periods name).start
      (periods name).end_ rows = .ok other ∧
        (tallies name).Perm other.tallies

/--
For every table with configured fees, every timeframe and every record of
periods, no report throws and all of them agree.
-/
theorem aggregates_agree (locale : LocaleRules) (config : Config)
    (byStatus : Arrangement PaymentStatus)
    (byStatusFee : Arrangement (PaymentStatus × String))
    (byFee : Arrangement String) (from_ to_ : Int)
    (periods : CourtPeriodRecord Bounds) (rows : List Transaction)
    (configured : ∀ row ∈ rows, FeeConfigured config row.fee) :
    ∃ breakdown totals tallies,
      countsAndFeeBreakdownInRange byStatusFee from_ to_ rows = .ok breakdown ∧
      totalsToDate periods rows = .ok totals ∧
      feeTalliesByPeriods byFee periods rows = .ok tallies ∧
      Agreement locale config byStatus from_ to_ periods rows breakdown totals
        tallies := by
  obtain ⟨breakdown, returned⟩ : ∃ breakdown,
      countsAndFeeBreakdownInRange byStatusFee from_ to_ rows =
        .ok breakdown :=
    ⟨_, countsAndFeeBreakdownInRange_eq⟩
  obtain ⟨counted, total⟩ := breakdown_counts returned
  obtain ⟨fees, _, success⟩ := breakdown_tallies returned
  refine ⟨breakdown, _, _, returned, totalsToDate_eq, feeTalliesByPeriods_eq, {
    counts := ?_
    success := success.symm
    total := ?_
    fees := fees
    subtotals := sum_period_tallies
    byPeriod := ?_ }⟩
  · obtain ⟨others, otherTotal⟩ := countsInRange_spec byStatus from_ to_ rows
    apply AggregatedPaymentStatus.eq_of_count_eq
    · exact fun status => (others status).trans (counted status).symm
    · exact otherTotal.trans total.symm
  · intro sort order limit offset
    have selected : rows.filter (isLogged locale
        (timeframeFilter from_ to_ sort order limit offset)) =
          rows.filter (isUpdatedIn from_ to_) :=
      List.filter_congr fun row _ => by simp [isLogged, timeframeFilter]
    have asked : queryLog locale config
        (timeframeFilter from_ to_ sort order limit offset) rows =
          .ok ⟨_, some (rows.filter (isLogged locale
            (timeframeFilter from_ to_ sort order limit offset))).length⟩ :=
      queryLog_ok configured
    rw [selected, ← total] at asked
    exact ⟨_, asked⟩
  · intro name arrangement
    have other : countsAndFeeBreakdownInRange arrangement
        (periods name).start (periods name).end_ rows = .ok _ :=
      countsAndFeeBreakdownInRange_eq
    obtain ⟨distinct, isTally, _⟩ := breakdown_tallies other
    exact ⟨_, other, perm_of_tallies (nodup_period_fees name) distinct
      (mem_period_tallies name) isTally⟩

/-- A successful payment of a fee. -/
def samplePaid (id fee : String) (amount : Amount) (paidAt : Int) :
    Transaction :=
  { receivedRow paidAt {
      agencyTrackingId := id
      fee := fee
      clientName := "dawson"
      transactionReferenceId := id
      transactionAmount := amount
      metadata := none } with
    paymentStatus := .success
    transactionStatus := some .processed }

/-- Payments of two fees; one of them is made later than the others. -/
def samplePayments (early late : Int) : List Transaction :=
  [samplePaid "A1" "PETITION_FILING_FEE" 60 early,
    samplePaid "A2" "NONATTORNEY_EXAM_REGISTRATION_FEE" 250 early,
    samplePaid "A3" "PETITION_FILING_FEE" 60 late]

/-- The day of the late payment, and periods that contain all of them. -/
def samplePeriods : CourtPeriodRecord Bounds
  | .day => ⟨1000, 2000⟩
  | _ => ⟨0, 2000⟩

/-- What the reports about the sample payments have in common. -/
theorem aggregates_agree_sample : ∃ breakdown totals tallies,
    countsAndFeeBreakdownInRange .plain 0 2000 (samplePayments 500 1500) =
      .ok breakdown ∧
    totalsToDate samplePeriods (samplePayments 500 1500) = .ok totals ∧
    feeTalliesByPeriods .plain samplePeriods (samplePayments 500 1500) =
      .ok tallies ∧
    Agreement plainRules sampleConfig .plain 0 2000 samplePeriods
      (samplePayments 500 1500) breakdown totals tallies ∧
    breakdown.counts.success = 3 ∧ totals .day = 60 ∧ totals .month = 370 ∧
    tallies .day = [⟨"PETITION_FILING_FEE", 1, 60⟩] ∧
    (tallies .month).map FeeTally.qty = [1, 2] := by
  have configured : ∀ row ∈ samplePayments 500 1500,
      FeeConfigured sampleConfig row.fee := by
    simp only [samplePayments, List.mem_cons, List.not_mem_nil, or_false]
    rintro row (rfl | rfl | rfl)
    · exact ⟨"Petition Filing Fee", rfl, by decide⟩
    · exact ⟨"Non-Attorney Exam Registration Fee", rfl, by decide⟩
    · exact ⟨"Petition Filing Fee", rfl, by decide⟩
  obtain ⟨breakdown, totals, tallies, counted, summed, tallied, agreement⟩ :=
    aggregates_agree plainRules sampleConfig .plain .plain .plain 0 2000
      samplePeriods (samplePayments 500 1500) configured
  obtain rfl := Except.ok.inj (counted.symm.trans countsAndFeeBreakdownInRange_eq)
  obtain rfl := Except.ok.inj (summed.symm.trans totalsToDate_eq)
  obtain rfl := Except.ok.inj (tallied.symm.trans feeTalliesByPeriods_eq)
  exact ⟨_, _, _, counted, summed, tallied, agreement, by decide +kernel,
    by decide +kernel, by decide +kernel, by decide +kernel, by decide +kernel⟩

end PaymentPortal.Guarantees
