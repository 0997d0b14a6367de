import PaymentPortal.Guarantees.StatusPairs
import PaymentPortal.Model.Migrations

/-!
# Rolling the cancellation migration back

The guard of the rollback looks for covered siblings among the rows as they
were, so two cancelled attempts of one obligation do not see each other.  The
statement fails exactly where both are restored.
-/

namespace PaymentPortal.Guarantees

open PaymentPortal.Interaction
open PaymentPortal.Model
open PaymentPortal.Model.CancelExpiredInitiatedTransactions
open PaymentPortal.Protocol
open Transaction (Compatible COVERED_STATUSES)

/-- A cancelled row without a return code. -/
def CancelledUncoded (row : Transaction) : Prop :=
  row.transactionStatus = some .cancelled ∧ row.returnCode = none

/--
Only obligations with a covered row have more than one cancelled row without a
return code.
-/
def CancelledOnce (table : Table) : Prop :=
  ∀ first ∈ table.rows, ∀ second ∈ table.rows, first ≠ second →
    CancelledUncoded first → CancelledUncoded second →
    first.obligation = second.obligation →
      ∃ other ∈ table.rows, other.Active ∧ other.obligation = first.obligation

variable {now : Int} {table : Table} {row : Transaction}

/-- The rows that are restored. -/
theorem isRestored_iff :
    isRestored table.rows row = true ↔ CancelledUncoded row ∧
      ∀ other ∈ table.rows, other.obligation = row.obligation →
        other.agencyTrackingId ≠ row.agencyTrackingId → ¬ other.Active := by
  have guarded : isRestored table.rows row = true ↔
      CancelledUncoded row ∧ hasCoveredSibling table.rows row = false := by
    simp [isRestored, CancelledUncoded]
  rw [guarded, ← Bool.not_eq_true, hasCoveredSibling_iff]
  push Not
  rfl

/-- A cancelled row is not covered. -/
theorem CancelledUncoded.inactive (cancelled : CancelledUncoded row) :
    ¬ row.Active := by
  rw [Transaction.active_iff cancelled.1]
  decide

/-- What the rollback makes of a row. -/
abbrev restore (now : Int) (table : Table) (row : Transaction) : Transaction :=
  Table.updateRow now (isRestored table.rows) restoredPatch row

theorem restore_of_restored (restored : isRestored table.rows row = true) :
    restore now table row =
      { restoredPatch row with lastUpdatedAt := now } := by
  rw [restore, Table.updateRow, if_pos restored]
  exact set_last_updated_at_stamped (by simp [restoredPatch])

theorem restore_of_spared (spared : isRestored table.rows row = false) :
    restore now table row = row := by
  simp [restore, Table.updateRow, spared]

theorem restore_agencyTrackingId :
    (restore now table row).agencyTrackingId = row.agencyTrackingId := by
  unfold restore Table.updateRow
  split
  · exact set_last_updated_at_agencyTrackingId now row (restoredPatch row)
  · rfl

/-- The primary key is left alone, so only the index can reject the rows. -/
theorem down_ok_iff : (∃ after, down now table = .ok after) ↔
    (table.rows.map (restore now table)).Pairwise Compatible := by
  have ids : (table.rows.map (restore now table)).map
      Transaction.agencyTrackingId =
        table.rows.map Transaction.agencyTrackingId := by
    rw [List.map_map]
    exact List.map_congr_left fun row _ => restore_agencyTrackingId
  have distinct := ids ▸ table.primaryKey
  by_cases compatible :
      (table.rows.map (restore now table)).Pairwise Compatible
  · have accepted : table.update? now (isRestored table.rows) restoredPatch =
        some ⟨_, distinct, compatible⟩ := dif_pos ⟨distinct, compatible⟩
    refine iff_of_true ⟨⟨_, distinct, compatible⟩, ?_⟩ compatible
    rw [down, update, accepted]
  · have rejected : table.update? now (isRestored table.rows) restoredPatch =
        none := dif_neg fun valid => compatible valid.2
    refine iff_of_false ?_ compatible
    rintro ⟨after, succeeded⟩
    rw [down, update, rejected] at succeeded
    exact absurd succeeded (by simp)

/-- Two rows that are both restored clash. -/
theorem not_compatible_of_restored {first second : Transaction}
    (firstRestored : isRestored table.rows first = true)
    (secondRestored : isRestored table.rows second = true)
    (same : first.obligation = second.obligation) :
    ¬ (restore now table first).Compatible (restore now table second) := by
  intro compatible
  rw [restore_of_restored firstRestored, restore_of_restored secondRestored]
    at compatible
  exact compatible rfl rfl same

/-- Where cancelled rows are single, no two rows clash. -/
theorem compatible_of_cancelledOnce (once : CancelledOnce table)
    {first second : Transaction} (firstIn : first ∈ table.rows)
    (secondIn : second ∈ table.rows) (different : first ≠ second) :
    (restore now table first).Compatible (restore now table second) := by
  have apart : first.agencyTrackingId ≠ second.agencyTrackingId :=
    fun sameId => different (table.eq_of_id_eq firstIn secondIn sameId)
  by_cases firstRestored : isRestored table.rows first = true
  · obtain ⟨firstCancelled, firstAlone⟩ := isRestored_iff.mp firstRestored
    rw [restore_of_restored firstRestored]
    by_cases secondRestored : isRestored table.rows second = true
    · obtain ⟨secondCancelled, _⟩ := isRestored_iff.mp secondRestored
      rw [restore_of_restored secondRestored]
      intro _ _ same
      obtain ⟨other, otherIn, otherActive, otherSame⟩ := once first firstIn
        second secondIn different firstCancelled secondCancelled same
      apply firstAlone other otherIn otherSame _ otherActive
      intro sameId
      obtain rfl := table.eq_of_id_eq otherIn firstIn sameId
      exact firstCancelled.inactive otherActive
    · rw [restore_of_spared (Bool.eq_false_of_not_eq_true secondRestored)]
      intro _ secondActive same
      exact firstAlone second secondIn same.symm apart.symm secondActive
  · rw [restore_of_spared (Bool.eq_false_of_not_eq_true firstRestored)]
    by_cases secondRestored : isRestored table.rows second = true
    · obtain ⟨_, secondAlone⟩ := isRestored_iff.mp secondRestored
      rw [restore_of_restored secondRestored]
      intro firstActive _ same
      exact secondAlone first firstIn same apart firstActive
    · rw [restore_of_spared (Bool.eq_false_of_not_eq_true secondRestored)]
      exact table.uniqueActive.forall firstIn secondIn different

/--
From any table that satisfies the index, hence from every reachable one, the
rollback succeeds exactly if no obligation without a covered row has two
cancelled rows without a return code.
-/
theorem down_succeeds_iff (now : Int) (table : Table) :
    (∃ after, down now table = .ok after) ↔ CancelledOnce table := by
  rw [down_ok_iff]
  constructor
  · intro compatible first firstIn second secondIn different firstCancelled
      secondCancelled same
    by_contra uncovered
    have alone : ∀ row, row.obligation = first.obligation →
        CancelledUncoded row → isRestored table.rows row = true := by
      intro row isSame cancelled
      refine isRestored_iff.mpr ⟨cancelled, ?_⟩
      intro other otherIn otherSame _ otherActive
      exact uncovered ⟨other, otherIn, otherActive, otherSame.trans isSame⟩
    have apart : restore now table first ≠ restore now table second := by
      intro merged
      apply different
      apply table.eq_of_id_eq firstIn secondIn
      simpa only [restore_agencyTrackingId] using
        congrArg Transaction.agencyTrackingId merged
    exact not_compatible_of_restored (alone first rfl firstCancelled)
      (alone second same.symm secondCancelled) same
      (compatible.forall (List.mem_map_of_mem firstIn)
        (List.mem_map_of_mem secondIn) apart)
  · intro once
    rw [List.pairwise_map]
    have distinct : table.rows.Nodup := table.primaryKey.of_map
    exact distinct.imp_of_mem fun firstIn secondIn different =>
      compatible_of_cancelledOnce once firstIn secondIn different

/-! ## A failing rollback -/

/-- The sample order is initiated twice; both attempts expire and are swept. -/
def sampleAbandonment : List PortalMove :=
  initiates 0 "A1" firstToken ++
    [.drift (.tick 10800001), .arrive .cancelExpiredTransactions,
      .step 1 (.executed [])] ++
    initiates 2 "A2" secondToken ++
    [.drift (.tick 10800001), .arrive .cancelExpiredTransactions,
      .step 3 (.executed [])]

/--
After the migration of an empty table, two attempts of one obligation may
expire one after the other; then the rollback fails.
-/
theorem down_fails_sample : ∃ start state,
    CancelExpiredInitiatedTransactions.up sampleNow Table.empty = .ok start ∧
    (portal sampleConfig).replay Machine.Unrestricted sampleAbandonment
      (.initial ⟨sampleNow, start, .empty⟩) = some state ∧
    ¬ ∃ after, down state.world.now state.world.table = .ok after := by
  have migrated : CancelExpiredInitiatedTransactions.up sampleNow Table.empty =
      .ok Table.empty := by rfl
  have replayed : (((portal sampleConfig).replay Machine.Unrestricted
      sampleAbandonment (.initial ⟨sampleNow, Table.empty, .empty⟩)).map
        fun state => (down state.world.now state.world.table).toOption.isNone)
      = some true := by
    decide
  obtain ⟨state, reached, failed⟩ := Option.map_eq_some_iff.mp replayed
  refine ⟨Table.empty, state, migrated, reached, ?_⟩
  rintro ⟨after, succeeded⟩
  rw [succeeded] at failed
  exact absurd failed (by simp [Except.toOption])

end PaymentPortal.Guarantees
