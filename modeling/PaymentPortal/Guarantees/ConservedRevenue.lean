import Mathlib.Data.Rat.Floor
import Mathlib.Tactic.NormNum
import PaymentPortal.Guarantees.Aggregates
import PaymentPortal.Model.CourtTimeZone
import PaymentPortal.Model.Dashboard

/-!
# The fee breakdown conserves revenue

A breakdown merges the configured fees with the tallies of one statement.  It
loses no tally, except for those under unconfigured keys that every object
inherits: `fee in feeNames` holds of them too.  Without such a key the totals
and the counts that come from the same statement agree with the breakdown.
-/

namespace PaymentPortal.Guarantees

open PaymentPortal.Calendar
open PaymentPortal.Model
open PaymentPortal.Relational

/-- The keys of the configured fees. -/
def configuredFees (config : Config) : List String :=
  (getFeeNamesByKey config).map Prod.fst

/-- A key that every object inherits, but no configured fee. -/
def UnconfiguredInherited (config : Config) (fee : String) : Prop :=
  fee ∈ OBJECT_PROTOTYPE_KEYS ∧ fee ∉ configuredFees config

/-- The breakdown that the dashboard is promised. -/
structure ConservesRevenue (collator : Collator) (config : Config)
    (tallies : List FeeTally) (rows : List FeeBreakdownRow) : Prop where
  entries : (rows.map FeeBreakdownRow.fee).Perm
    (mergedKeys (configuredFees config) (tallies.map FeeTally.fee))
  tallied : ∀ row ∈ rows, ∀ tally ∈ tallies, tally.fee = row.fee →
    row.qty = tally.qty ∧ row.subtotal = tally.subtotal
  untallied : ∀ row ∈ rows, (∀ tally ∈ tallies, tally.fee ≠ row.fee) →
    row.qty = 0 ∧ row.subtotal = 0
  named : ∀ row ∈ rows, row.feeName =
    ((getFeeNamesByKey config).lookup row.fee).getD row.fee
  ordered : rows.Pairwise fun first second =>
    second.subtotal < first.subtotal ∨ second.subtotal = first.subtotal ∧
      collator.localeCompare first.feeName second.feeName ≤ 0

/-! ## The breakdown -/

section Breakdown

variable {collator : Collator} {config : Config} {tallies : List FeeTally}

theorem breakdownLe_iff {a b : FeeBreakdownRow} :
    breakdownLe collator a b ↔ b.subtotal < a.subtotal ∨
      b.subtotal = a.subtotal ∧
        collator.localeCompare a.feeName b.feeName ≤ 0 := by
  simp only [breakdownLe, sub_eq_zero, sub_nonpos]
  split
  · next same => simp [same]
  · next different => simp [different, lt_iff_le_and_ne]

instance : Std.Total (breakdownLe collator) where
  total a b := by
    rw [breakdownLe_iff, breakdownLe_iff]
    rcases lt_trichotomy a.subtotal b.subtotal with less | same | more
    · exact .inr (.inl less)
    · rcases collator.total a.feeName b.feeName with below | above
      · exact .inl (.inr ⟨same.symm, below⟩)
      · exact .inr (.inr ⟨same, above⟩)
    · exact .inl (.inl more)

instance : IsTrans FeeBreakdownRow (breakdownLe collator) where
  trans a b c first second := by
    rw [breakdownLe_iff] at first second ⊢
    rcases first with more | ⟨same, before⟩
    · rcases second with further | ⟨equal, -⟩
      · exact .inl (further.trans more)
      · exact .inl (equal ▸ more)
    · rcases second with further | ⟨equal, after⟩
      · exact .inl (same ▸ further)
      · exact .inr ⟨equal.trans same, collator.trans _ _ _ before after⟩

/-- The fees that `buildFeeBreakdown` makes rows of. -/
def listedFees (config : Config) (tallies : List FeeTally) : List String :=
  configuredFees config ++ (tallies.map FeeTally.fee).filter fun fee =>
    !isInFeeNames (getFeeNamesByKey config) fee

theorem isInFeeNames_iff {fee : String} :
    isInFeeNames (getFeeNamesByKey config) fee = true ↔
      fee ∈ configuredFees config ∨ fee ∈ OBJECT_PROTOTYPE_KEYS := by
  simp [isInFeeNames, configuredFees, List.lookup_isSome_iff]

theorem buildFeeBreakdown_perm :
    (buildFeeBreakdown collator config tallies).Perm
      ((listedFees config tallies).map
        (feeBreakdownRow (getFeeNamesByKey config) tallies)) :=
  List.perm_insertionSort _ _

theorem fees_buildFeeBreakdown_perm :
    ((buildFeeBreakdown collator config tallies).map FeeBreakdownRow.fee).Perm
      (listedFees config tallies) := by
  have perm : List.Perm (buildFeeBreakdown collator config tallies) _ :=
    buildFeeBreakdown_perm
  have mapped := perm.map FeeBreakdownRow.fee
  rw [List.map_map] at mapped
  exact mapped.trans (.of_eq (List.map_id _))

/-- Every row of a breakdown is the one of its fee. -/
theorem eq_feeBreakdownRow {row : FeeBreakdownRow}
    (among : row ∈ buildFeeBreakdown collator config tallies) :
    row = feeBreakdownRow (getFeeNamesByKey config) tallies row.fee := by
  obtain ⟨fee, -, rfl⟩ := List.mem_map.mp (buildFeeBreakdown_perm.subset among)
  rfl

theorem listedFees_eq_mergedKeys
    (sound : ∀ tally ∈ tallies, ¬ UnconfiguredInherited config tally.fee) :
    listedFees config tallies =
      mergedKeys (configuredFees config) (tallies.map FeeTally.fee) := by
  refine congrArg (configuredFees config ++ ·) (List.filter_congr ?_)
  intro fee among
  obtain ⟨tally, tallyIn, rfl⟩ := List.mem_map.mp among
  rw [Bool.eq_iff_iff, Bool.not_eq_true', ← Bool.not_eq_true, isInFeeNames_iff,
    decide_eq_true_iff]
  constructor
  · exact fun neither configured => neither (.inl configured)
  · rintro unknown (configured | inherited)
    · exact unknown configured
    · exact sound tally tallyIn ⟨inherited, unknown⟩

/-- The rows of a breakdown carry their own tallies, in order. -/
theorem buildFeeBreakdown_conserves
    (distinct : (tallies.map FeeTally.fee).Nodup)
    (sound : ∀ tally ∈ tallies, ¬ UnconfiguredInherited config tally.fee) :
    ConservesRevenue collator config tallies
      (buildFeeBreakdown collator config tallies) where
  entries := listedFees_eq_mergedKeys sound ▸ fees_buildFeeBreakdown_perm
  tallied row among tally tallyIn same := by
    rw [eq_feeBreakdownRow among, ← same]
    simp only [feeBreakdownRow, entryOf?_of_mem distinct tallyIn,
      Option.map_some, Option.getD_some, and_self]
  untallied row among absent := by
    rw [eq_feeBreakdownRow among]
    simp only [feeBreakdownRow, entryOf?_eq_none.mpr absent, Option.map_none,
      Option.getD_none, and_self]
  named row among := by
    rw [eq_feeBreakdownRow among]
    rfl
  ordered := (List.pairwise_insertionSort (breakdownLe collator) _).imp
    fun before => breakdownLe_iff.mp before

/-- A tally under an unconfigured inherited key is lost. -/
theorem not_conserves_of_inherited {tally : FeeTally}
    (among : tally ∈ tallies)
    (inherited : UnconfiguredInherited config tally.fee) :
    ¬ ConservesRevenue collator config tallies
      (buildFeeBreakdown collator config tallies) := by
  intro conserves
  have merged : tally.fee ∈
      mergedKeys (configuredFees config) (tallies.map FeeTally.fee) :=
    mem_mergedKeys.mpr (.inr (List.mem_map_of_mem among))
  have listed := fees_buildFeeBreakdown_perm.subset
    (conserves.entries.symm.subset merged)
  rcases List.mem_append.mp listed with configured | kept
  · exact inherited.2 configured
  · have isKnown : isInFeeNames (getFeeNamesByKey config) tally.fee = true :=
      isInFeeNames_iff.mpr (.inr inherited.1)
    simp [isKnown] at kept

theorem buildFeeBreakdown_conserves_iff
    (distinct : (tallies.map FeeTally.fee).Nodup) :
    ConservesRevenue collator config tallies
        (buildFeeBreakdown collator config tallies) ↔
      ∀ tally ∈ tallies, ¬ UnconfiguredInherited config tally.fee := by
  constructor
  · intro conserves tally among inherited
    exact not_conserves_of_inherited among inherited conserves
  · exact buildFeeBreakdown_conserves distinct

/-! ## Sums over a breakdown -/

/-- What a column of a breakdown adds up to. -/
theorem ConservesRevenue.sum_eq {M : Type} [AddCommMonoid M]
    {rows : List FeeBreakdownRow} (column : FeeBreakdownRow → M)
    (value : FeeTally → M) (configDistinct : (configuredFees config).Nodup)
    (distinct : (tallies.map FeeTally.fee).Nodup)
    (conserves : ConservesRevenue collator config tallies rows)
    (carries : ∀ row ∈ rows, column row =
      ((entryOf? FeeTally.fee tallies row.fee).map value).getD 0) :
    (rows.map column).sum = (tallies.map value).sum := by
  rw [List.map_congr_left carries,
    ← sum_mergedKeys value configDistinct distinct,
    ← (conserves.entries.map _).sum_eq, List.map_map]
  rfl

/-- The tally of a row, as it is looked up. -/
theorem ConservesRevenue.carries {rows : List FeeBreakdownRow}
    (conserves : ConservesRevenue collator config tallies rows)
    {row : FeeBreakdownRow} (among : row ∈ rows) :
    row.qty = ((entryOf? FeeTally.fee tallies row.fee).map
        FeeTally.qty).getD 0 ∧
      row.subtotal = ((entryOf? FeeTally.fee tallies row.fee).map
        FeeTally.subtotal).getD 0 := by
  cases found : entryOf? FeeTally.fee tallies row.fee with
  | none => exact conserves.untallied row among (entryOf?_eq_none.mp found)
  | some tally =>
      obtain ⟨tallyIn, same⟩ := mem_of_entryOf? found
      exact conserves.tallied row among tally tallyIn same

theorem ConservesRevenue.sum_subtotals {rows : List FeeBreakdownRow}
    (conserves : ConservesRevenue collator config tallies rows)
    (configDistinct : (configuredFees config).Nodup)
    (distinct : (tallies.map FeeTally.fee).Nodup) :
    (rows.map FeeBreakdownRow.subtotal).sum =
      (tallies.map FeeTally.subtotal).sum :=
  conserves.sum_eq _ _ configDistinct distinct
    fun _ among => (conserves.carries among).2

theorem ConservesRevenue.sum_quantities {rows : List FeeBreakdownRow}
    (conserves : ConservesRevenue collator config tallies rows)
    (configDistinct : (configuredFees config).Nodup)
    (distinct : (tallies.map FeeTally.fee).Nodup) :
    (rows.map FeeBreakdownRow.qty).sum = (tallies.map FeeTally.qty).sum :=
  conserves.sum_eq _ _ configDistinct distinct
    fun _ among => (conserves.carries among).1

end Breakdown

/-! ## Cents -/

/-- An amount with two decimals. -/
def InCents (amount : Amount) : Prop :=
  ∃ cents : Int, amount = cents / 100

/-- What the column keeps has two decimals. -/
theorem inCents_toNumeric (amount : Amount) : InCents (toNumeric amount) :=
  ⟨_, rfl⟩

theorem InCents.mathRound_eq {amount : Amount} (exact : InCents amount) :
    (mathRound (amount * 100) : Rat) = amount * 100 := by
  obtain ⟨cents, rfl⟩ := exact
  rw [div_mul_cancel₀ (cents : Rat) (by norm_num)]
  exact congrArg _ (mathRound_eq_of_near (by simp))

theorem inCents_sum {amounts : List Amount}
    (exact : ∀ amount ∈ amounts, InCents amount) : InCents amounts.sum := by
  induction amounts with
  | nil => exact ⟨0, by simp⟩
  | cons amount rest ih =>
      obtain ⟨first, first_eq⟩ := exact amount List.mem_cons_self
      obtain ⟨others, others_eq⟩ := ih fun other among =>
        exact other (List.mem_cons_of_mem _ among)
      refine ⟨first + others, ?_⟩
      rw [List.sum_cons, first_eq, others_eq, Int.cast_add, add_div]

theorem foldl_cents (tallies : List FeeTally) (cents : Int)
    (exact : ∀ tally ∈ tallies, InCents tally.subtotal) :
    ((tallies.foldl (fun cents row => cents + mathRound (row.subtotal * 100))
      cents : Int) : Rat) =
        cents + (tallies.map FeeTally.subtotal).sum * 100 := by
  induction tallies generalizing cents with
  | nil => simp
  | cons tally rest ih =>
      rw [List.foldl_cons, ih _ fun other among =>
          exact other (List.mem_cons_of_mem _ among),
        Int.cast_add, (exact tally List.mem_cons_self).mathRound_eq,
        List.map_cons, List.sum_cons, add_mul, add_assoc]

/-- The detour over cents is exact. -/
theorem sumInCents_eq {tallies : List FeeTally}
    (exact : ∀ tally ∈ tallies, InCents tally.subtotal) :
    sumInCents tallies = (tallies.map FeeTally.subtotal).sum := by
  rw [sumInCents, foldl_cents tallies 0 exact, Int.cast_zero, zero_add,
    mul_div_assoc, div_self (by norm_num), mul_one]

/-! ## The tallies of a statement -/

section Tallies

variable {config : Config} {rows : List Transaction} {tallies : List FeeTally}

/-- The fees of the tallies are those of the successful rows. -/
theorem sound_tallies_iff (isTally : ∀ tally, tally ∈ tallies ↔
    IsTally rows tally) :
    (∀ tally ∈ tallies, ¬ UnconfiguredInherited config tally.fee) ↔
      ∀ row ∈ rows, isSuccess row = true →
        ¬ UnconfiguredInherited config row.fee := by
  constructor
  · intro sound row among success
    have paid : row ∈ paidRows row.fee rows :=
      List.mem_filter.mpr ⟨among, by simp [success]⟩
    have tallied : (⟨row.fee, (paidRows row.fee rows).length,
        ((paidRows row.fee rows).map Transaction.transactionAmount).sum⟩ :
          FeeTally) ∈ tallies :=
      (isTally _).mpr ⟨List.ne_nil_of_mem paid, rfl, rfl⟩
    exact sound _ tallied
  · intro sound tally among
    obtain ⟨paid, -, -⟩ := (isTally tally).mp among
    obtain ⟨row, inPaid⟩ := List.exists_mem_of_ne_nil _ paid
    obtain ⟨rowIn, isPaid⟩ := List.mem_filter.mp inPaid
    obtain ⟨success, isFee⟩ : isSuccess row = true ∧ row.fee = tally.fee := by
      simpa using isPaid
    exact isFee ▸ sound row rowIn success

/-- Sums of amounts with two decimals have two decimals. -/
theorem IsTally.inCents {tally : FeeTally} (isTally : IsTally rows tally)
    (exact : ∀ row ∈ rows, InCents row.transactionAmount) :
    InCents tally.subtotal := by
  rw [isTally.2.2]
  apply inCents_sum
  intro amount among
  obtain ⟨row, inPaid, rfl⟩ := List.mem_map.mp among
  exact exact row (List.mem_of_mem_filter inPaid)

end Tallies

/-! ## The responses -/

/-- The tallies of a period. -/
abbrev periodTallies (byFee : Arrangement String)
    (periods : CourtPeriodRecord Bounds) (rows : List Transaction)
    (name : CourtPeriodName) : List FeeTally :=
  (paidGroups byFee periods rows name).map (tallyIn (periods name))

/-- The summary of a snapshot: nothing is lost, and the totals agree. -/
structure SummaryConserves (collator : Collator) (config : Config)
    (byFee : Arrangement String) (periods : CourtPeriodRecord Bounds)
    (rows : List Transaction) (summary : RevenueSummaryResponse) : Prop where
  fees : ∀ tallies, feeTalliesByPeriods byFee periods rows = .ok tallies →
    ∀ name, ConservesRevenue collator config (tallies name)
      (summary.totals name).fees
  totals : ∀ name, (summary.totals name).total =
    ((summary.totals name).fees.map FeeBreakdownRow.subtotal).sum

/-- The log's figures of a snapshot: nothing is lost, and the counts agree. -/
structure LogConserves (collator : Collator) (config : Config)
    (byStatusFee : Arrangement (PaymentStatus × String)) (timeframe : Bounds)
    (rows : List Transaction) (counts : TransactionCounts)
    (breakdown : List FeeBreakdownRow) : Prop where
  fees : ∀ found, countsAndFeeBreakdownInRange byStatusFee timeframe.start
    timeframe.end_ rows = .ok found →
      ConservesRevenue collator config found.tallies breakdown
  success : counts.success = (breakdown.map FeeBreakdownRow.qty).sum

section Responses

variable (collator : Collator) (config : Config) (court : Zone) (now : Int)

/-- What `getRevenueSummary` returns for a period. -/
theorem getRevenueSummary_eq (byFee : Arrangement String)
    (snapshots : SummarySnapshots) {tallies : CourtPeriodRecord (List FeeTally)}
    (tallied : feeTalliesByPeriods byFee (courtPeriodBounds court now)
      snapshots.tallies = .ok tallies) :
    ∃ summary,
      getRevenueSummary collator config court byFee now snapshots =
        .ok summary ∧
      ∀ name, (summary.totals name).total = sumInCents (tallies name) ∧
        (summary.totals name).fees =
          buildFeeBreakdown collator config (tallies name) := by
  simp only [getRevenueSummary, tallied]
  exact ⟨_, rfl, fun _ => ⟨rfl, rfl⟩⟩

/-- The summary conserves revenue unless an inherited key has been paid. -/
theorem getRevenueSummary_conserves_iff
    (configDistinct : (configuredFees config).Nodup)
    (byFee : Arrangement String) (snapshots : SummarySnapshots)
    (exact : ∀ row ∈ snapshots.tallies, InCents row.transactionAmount) :
    ∃ summary,
      getRevenueSummary collator config court byFee now snapshots =
        .ok summary ∧
      (SummaryConserves collator config byFee (courtPeriodBounds court now)
          snapshots.tallies summary ↔
        ∀ name, ∀ row ∈ snapshots.tallies.filter
            (isInPeriod (courtPeriodBounds court now name)),
          isSuccess row = true → ¬ UnconfiguredInherited config row.fee) := by
  have tallied : feeTalliesByPeriods byFee (courtPeriodBounds court now)
      snapshots.tallies = .ok (periodTallies byFee
        (courtPeriodBounds court now) snapshots.tallies) :=
    feeTalliesByPeriods_eq
  obtain ⟨summary, returned, figures⟩ :=
    getRevenueSummary_eq collator config court now byFee snapshots tallied
  refine ⟨summary, returned, ?_⟩
  have sound_iff (name : CourtPeriodName) :
      (∀ tally ∈ periodTallies byFee (courtPeriodBounds court now)
          snapshots.tallies name, ¬ UnconfiguredInherited config tally.fee) ↔
        ∀ row ∈ snapshots.tallies.filter
            (isInPeriod (courtPeriodBounds court now name)),
          isSuccess row = true → ¬ UnconfiguredInherited config row.fee :=
    sound_tallies_iff (mem_period_tallies name)
  constructor
  · intro conserves name
    have fees := conserves.fees _ tallied name
    rw [(figures name).2] at fees
    exact (sound_iff name).mp
      ((buildFeeBreakdown_conserves_iff (nodup_period_fees name)).mp fees)
  · intro sound
    have conserves : ∀ name, ConservesRevenue collator config
        (periodTallies byFee (courtPeriodBounds court now) snapshots.tallies
          name) (summary.totals name).fees := by
      intro name
      rw [(figures name).2]
      exact buildFeeBreakdown_conserves (nodup_period_fees name)
        ((sound_iff name).mpr (sound name))
    constructor
    · intro tallies found name
      rw [Except.ok.inj (found.symm.trans tallied)]
      exact conserves name
    · intro name
      rw [(figures name).1, sumInCents_eq, (conserves name).sum_subtotals
        configDistinct (nodup_period_fees name)]
      intro tally among
      exact ((mem_period_tallies name tally).mp among).inCents
        fun row inPeriod => exact row (List.mem_of_mem_filter inPeriod)

theorem except_bind_eq_ok {ε α β : Type} {first : Except ε α}
    {next : α → Except ε β} {result : β} :
    (first >>= next) = .ok result ↔
      ∃ value, first = .ok value ∧ next value = .ok result := by
  cases first with
  | error failure => exact ⟨nofun, nofun⟩
  | ok value =>
      exact ⟨fun same => ⟨value, rfl, same⟩, fun ⟨_, rfl, same⟩ => same⟩

theorem except_toOption_eq_some {ε α : Type} {step : Except ε α} {value : α} :
    step.toOption = some value ↔ step = .ok value := by
  cases step with
  | error failure => exact ⟨nofun, nofun⟩
  | ok result => simp [Except.toOption]

/-- A log with a breakdown has the counts of the same statement. -/
theorem getTransactionLog_breakdown (locale : LocaleRules)
    (arrangements : LogArrangements) (query : RefinedQuery)
    (snapshots : LogSnapshots) {response : TransactionLogResponse}
    (returned : getTransactionLog collator locale config court arrangements now
      query snapshots = .ok response) {breakdown : List FeeBreakdownRow}
    (included : response.feeBreakdown = some breakdown) :
    ∃ found counts,
      countsAndFeeBreakdownInRange arrangements.byStatusFee
        (query.timeframe court now).start (query.timeframe court now).end_
        snapshots.aggregates = .ok found ∧
      breakdown = buildFeeBreakdown collator config found.tallies ∧
      response.counts = some counts ∧
        counts.success = found.counts.success := by
  simp only [getTransactionLog, except_bind_eq_ok] at returned
  obtain ⟨page, -, aggregates, aggregated, totals, -, previous, -, data, -,
    made⟩ := returned
  cases made
  obtain ⟨tallies, some_tallies, rfl⟩ := Option.map_eq_some_iff.mp included
  obtain ⟨pair, rfl, tallied⟩ := Option.bind_eq_some_iff.mp some_tallies
  rw [onlyIf] at aggregated
  split at aggregated
  · rw [logAggregates] at aggregated
    split at aggregated
    · cases asked : countsAndFeeBreakdownInRange arrangements.byStatusFee
          (query.timeframe court now).start (query.timeframe court now).end_
          snapshots.aggregates with
      | error failure =>
          rw [asked] at aggregated
          cases aggregated
      | ok found =>
          rw [asked] at aggregated
          cases aggregated
          cases tallied
          exact ⟨found, _, rfl, rfl, rfl, rfl⟩
    · cases aggregated
      cases tallied
  · cases aggregated

/-- A log conserves revenue unless an inherited key has been paid. -/
theorem getTransactionLog_conserves_iff
    (configDistinct : (configuredFees config).Nodup) (locale : LocaleRules)
    (arrangements : LogArrangements) (query : RefinedQuery)
    (snapshots : LogSnapshots) {response : TransactionLogResponse}
    (returned : getTransactionLog collator locale config court arrangements now
      query snapshots = .ok response) {breakdown : List FeeBreakdownRow}
    (included : response.feeBreakdown = some breakdown) :
    ∃ counts, response.counts = some counts ∧
      (LogConserves collator config arrangements.byStatusFee
          (query.timeframe court now) snapshots.aggregates counts breakdown ↔
        ∀ row ∈ snapshots.aggregates.filter (isUpdatedIn
            (query.timeframe court now).start (query.timeframe court now).end_),
          isSuccess row = true → ¬ UnconfiguredInherited config row.fee) := by
  obtain ⟨found, counts, asked, rfl, counted, success⟩ :=
    getTransactionLog_breakdown collator config court now locale arrangements
      query snapshots returned included
  obtain ⟨distinct, isTally, quantities⟩ := breakdown_tallies asked
  refine ⟨counts, counted, ?_⟩
  rw [← sound_tallies_iff isTally]
  constructor
  · intro conserves
    exact (buildFeeBreakdown_conserves_iff distinct).mp
      (conserves.fees found asked)
  · intro sound
    have conserves : ConservesRevenue collator config found.tallies
        (buildFeeBreakdown collator config found.tallies) :=
      buildFeeBreakdown_conserves distinct sound
    constructor
    · intro other again
      rw [Except.ok.inj (again.symm.trans asked)]
      exact conserves
    · rw [success, conserves.sum_quantities configDistinct distinct]
      exact quantities.symm

end Responses

/-! ## The guarantee -/

/-- The breakdown and the two responses conserve revenue under a condition. -/
structure RevenueConservedWhen (config : Config)
    (sound : String → Prop) : Prop where
  breakdown : ∀ collator tallies, (tallies.map FeeTally.fee).Nodup →
    (ConservesRevenue collator config tallies
        (buildFeeBreakdown collator config tallies) ↔
      ∀ tally ∈ tallies, sound tally.fee)
  summary : ∀ collator court byFee now (snapshots : SummarySnapshots),
    (∀ row ∈ snapshots.tallies, InCents row.transactionAmount) →
      ∃ response,
        getRevenueSummary collator config court byFee now snapshots =
          .ok response ∧
        (SummaryConserves collator config byFee (courtPeriodBounds court now)
            snapshots.tallies response ↔
          ∀ name, ∀ row ∈ snapshots.tallies.filter
              (isInPeriod (courtPeriodBounds court now name)),
            isSuccess row = true → sound row.fee)
  log : ∀ collator locale court arrangements now query snapshots response,
    getTransactionLog collator locale config court arrangements now query
      snapshots = .ok response → ∀ breakdown,
        response.feeBreakdown = some breakdown →
          ∃ counts, response.counts = some counts ∧
            (LogConserves collator config arrangements.byStatusFee
                (query.timeframe court now) snapshots.aggregates counts
                breakdown ↔
              ∀ row ∈ snapshots.aggregates.filter (isUpdatedIn
                  (query.timeframe court now).start
                  (query.timeframe court now).end_),
                isSuccess row = true → sound row.fee)

/--
Revenue is conserved if and only if no fee that has been paid is an unconfigured
key that every object inherits.
-/
theorem feeBreakdown_conserves_revenue_iff (config : Config)
    (configDistinct : (configuredFees config).Nodup) :
    RevenueConservedWhen config
      fun fee => ¬ UnconfiguredInherited config fee where
  breakdown _ _ distinct := buildFeeBreakdown_conserves_iff distinct
  summary collator court byFee now snapshots exact :=
    getRevenueSummary_conserves_iff collator config court now configDistinct
      byFee snapshots exact
  log collator locale court arrangements now query snapshots _ returned _
      included :=
    getTransactionLog_conserves_iff collator config court now configDistinct
      locale arrangements query snapshots returned included

/-- Texts by code points. -/
def plainCollator : Collator where
  localeCompare a b := if a ≤ b then 0 else 1
  total a b := by
    rcases String.le_total a b with below | above
    · exact .inl (by rw [if_pos below])
    · exact .inr (by rw [if_pos above])
  trans a b c first second := by
    have before : a ≤ b := by_contra fun above => by simp [above] at first
    have after : b ≤ c := by_contra fun above => by simp [above] at second
    rw [if_pos (String.le_trans before after)]

/-- Tallies of a fee that is configured and of one that no longer is. -/
def sampleTallies : List FeeTally :=
  [⟨"RETIRED_FEE", 1, 10⟩, ⟨"PETITION_FILING_FEE", 2, 120⟩]

/-- The log of the two sample days, with its breakdown. -/
def sampleRequest : RefinedQuery where
  from_ := some 0
  to_ := some 2000
  status := none
  fee := none
  paymentMethod := none
  transactionStatus := none
  metadataSearch := none
  page := 1
  pageSize := 50
  export_ := false
  sort := .createdAt
  order := .desc
  includeTotals := false
  includeFeeBreakdown := true

/-- All queries of the log read the sample payments. -/
def sampleSnapshots : LogSnapshots :=
  let payments := samplePayments 500 1500
  ⟨payments, payments, payments, payments, payments⟩

/-- Nothing is lost of the sample tallies, in the summary and in the log. -/
theorem feeBreakdown_conserves_revenue_iff_sample :
    ConservesRevenue plainCollator sampleConfig sampleTallies
        (buildFeeBreakdown plainCollator sampleConfig sampleTallies) ∧
      (∃ summary,
        getRevenueSummary plainCollator sampleConfig newYork .plain
            1783180800000 ⟨samplePayments 1779724800000 1783177200000, []⟩ =
          .ok summary ∧
        SummaryConserves plainCollator sampleConfig .plain
          (courtPeriodBounds newYork 1783180800000)
          (samplePayments 1779724800000 1783177200000) summary) ∧
      ∃ response breakdown counts,
        getTransactionLog plainCollator plainRules sampleConfig newYork
            ⟨.plain, .plain⟩ 1783180800000 sampleRequest sampleSnapshots =
          .ok response ∧
        response.feeBreakdown = some breakdown ∧
        breakdown.map FeeBreakdownRow.subtotal = [250, 120] ∧
        response.counts = some counts ∧
        LogConserves plainCollator sampleConfig .plain ⟨0, 2000⟩
          (samplePayments 500 1500) counts breakdown := by
  have found : ((getTransactionLog plainCollator plainRules sampleConfig
      newYork ⟨.plain, .plain⟩ 1783180800000 sampleRequest
      sampleSnapshots).toOption.bind TransactionLogResponse.feeBreakdown).map
        (List.map FeeBreakdownRow.subtotal) = some [250, 120] := by
    decide +kernel
  have conserved : RevenueConservedWhen sampleConfig
      fun fee => ¬ UnconfiguredInherited sampleConfig fee :=
    feeBreakdown_conserves_revenue_iff sampleConfig (by decide)
  have petition : ¬ UnconfiguredInherited sampleConfig "PETITION_FILING_FEE" :=
    fun both => absurd both.1 (by decide)
  have exam : ¬ UnconfiguredInherited sampleConfig
      "NONATTORNEY_EXAM_REGISTRATION_FEE" :=
    fun both => absurd both.1 (by decide)
  have sound : ∀ early late, ∀ row ∈ samplePayments early late,
      InCents row.transactionAmount ∧
        ¬ UnconfiguredInherited sampleConfig row.fee := by
    intro early late
    simp only [samplePayments, List.mem_cons, List.not_mem_nil, or_false]
    rintro row (rfl | rfl | rfl)
    · exact ⟨inCents_toNumeric 60, petition⟩
    · exact ⟨inCents_toNumeric 250, exam⟩
    · exact ⟨inCents_toNumeric 60, petition⟩
  refine ⟨(conserved.breakdown plainCollator sampleTallies (by decide)).mpr ?_,
    ?_, ?_⟩
  · simp only [sampleTallies, List.mem_cons, List.not_mem_nil, or_false]
    rintro tally (rfl | rfl) <;> exact fun both => absurd both.1 (by decide)
  · obtain ⟨summary, returned, conserves⟩ := conserved.summary plainCollator
      newYork .plain 1783180800000
      ⟨samplePayments 1779724800000 1783177200000, []⟩
      fun row member => (sound _ _ row member).1
    exact ⟨summary, returned, conserves.mpr fun name row member _ =>
      (sound _ _ row (List.mem_of_mem_filter member)).2⟩
  · obtain ⟨breakdown, isSome, subtotals⟩ := Option.map_eq_some_iff.mp found
    obtain ⟨response, isOk, included⟩ := Option.bind_eq_some_iff.mp isSome
    have returned := except_toOption_eq_some.mp isOk
    obtain ⟨counts, counted, conserves⟩ := conserved.log plainCollator
      plainRules newYork ⟨.plain, .plain⟩ 1783180800000 sampleRequest
      sampleSnapshots response returned breakdown included
    exact ⟨response, breakdown, counts, returned, included, subtotals, counted,
      conserves.mpr fun row member _ =>
        (sound _ _ row (List.mem_of_mem_filter member)).2⟩

/-- What was paid under the key of a constructor is not in the breakdown. -/
theorem feeBreakdown_loses_constructor :
    ¬ ∀ config collator tallies, (configuredFees config).Nodup →
      (tallies.map FeeTally.fee).Nodup →
        ConservesRevenue collator config tallies
          (buildFeeBreakdown collator config tallies) := by
  intro conserves
  have inherited : UnconfiguredInherited sampleConfig "constructor" :=
    ⟨by decide, by decide⟩
  exact not_conserves_of_inherited List.mem_cons_self inherited
    (conserves sampleConfig plainCollator [⟨"constructor", 1, 60⟩] (by decide)
      (by decide))

end PaymentPortal.Guarantees
